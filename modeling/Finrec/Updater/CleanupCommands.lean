import Finrec.Updater.Commands

/-!
# The commands of a cleanup step

A cleanup step removes at most one thing, and only what the task recorded for
that step, whatever docker prints.  The log of a step shows it: a removal comes
last but for one listing, after the listings that license it.
-/

namespace Finrec.Updater

open CrashLogic DockerPlatform

/-- What the task recorded for a step to remove. -/
def UpdateTask.cleanupReference (task : UpdateTask) : CleanupStep → Option String
  | .versionTag => task.original.tags.head?
  | .rollbackAlias => some task.original.rollbackAlias
  | .imageId => some task.original.imageId

/-- What is known before the first command of a step. -/
structure StepAdmitted (environment : Option EnvironmentFile) (task : UpdateTask)
    (step : CleanupStep) : Prop where
  valid : validateCleanupTask task = true
  environmentTag : ∃ file content values, environment = some file ∧
    readEnvironmentAt file = some (content, values) ∧
    values.lookup webTagKey = some task.target.version
  started : task.cleanupJournal.map (·.status step) = some .started

/-- What was observed before the removal of a reference to the original image. -/
structure Licensed (task : UpdateTask) (reference : String) (earlier : List Issued) : Prop where
  noContainers : ∃ stdout, ⟨containersArgv task.original.imageId, .completed stdout⟩ ∈ earlier ∧
    isBlank stdout = true
  resolved : ∃ stdout, ⟨listArgv reference, .completed stdout⟩ ∈ earlier ∧
    listedImageId stdout = some (some task.original.imageId)

/-- There is no removal, or exactly one: that of the reference of the step, with its licence. -/
def RemovesRecorded (environment : Option EnvironmentFile) (task : UpdateTask)
    (step : CleanupStep) (issued : List Issued) : Prop :=
  Quiet issued ∨ ∃ earlier reference outcome later,
    issued = earlier ++ ⟨removeArgv reference, outcome⟩ :: later ∧ Quiet earlier ∧ Quiet later ∧
    task.cleanupReference step = some reference ∧ StepAdmitted environment task step ∧
    Licensed task reference earlier

/-- The last listing of the reference showed no image. -/
def SeenAbsent (reference : String) (issued : List Issued) : Prop :=
  ∃ earlier stdout later, issued = earlier ++ ⟨listArgv reference, .completed stdout⟩ :: later ∧
    listedImageId stdout = some none ∧ ∀ command ∈ later, command.argv ≠ listArgv reference

/-- Nothing is removed, or the reference after it was listed with the image. -/
def RemovesListed (reference imageId : String) (issued : List Issued) : Prop :=
  Quiet issued ∨ ∃ stdout outcome later,
    issued = ⟨listArgv reference, .completed stdout⟩ :: ⟨removeArgv reference, outcome⟩ :: later ∧
    listedImageId stdout = some (some imageId) ∧ Quiet later

section Quiet

variable {issued more : List Issued} {argv : List String} {reference imageId : String}

@[simp] theorem quiet_nil : Quiet [] := nofun

@[simp] theorem quiet_append : Quiet (issued ++ more) ↔ Quiet issued ∧ Quiet more :=
  List.forall_mem_append

@[simp] theorem quiet_cons {command : Issued} :
    Quiet (command :: issued) ↔ ¬ IsRemoval command.argv ∧ Quiet issued := List.forall_mem_cons

theorem quiet_of_argv (other : ¬ IsRemoval argv) (same : ∀ command ∈ issued, command.argv = argv) :
    Quiet issued := by
  intro command member
  rw [same command member]
  exact other

@[simp] theorem not_isRemoval_listArgv : ¬ IsRemoval (listArgv reference) := by
  simp [IsRemoval, listArgv]

@[simp] theorem not_isRemoval_containersArgv : ¬ IsRemoval (containersArgv imageId) := by
  simp [IsRemoval, containersArgv]

@[simp] theorem not_isRemoval_inspectArgv :
    ¬ IsRemoval (PlatformReaders.inspectArgv reference) := by
  simp [IsRemoval, PlatformReaders.inspectArgv]

theorem listArgv_inj {other : String} :
    listArgv reference = listArgv other ↔ reference = other := by
  simp [listArgv]

end Quiet

namespace Session

theorem logs_referenceImageId (reference : String) :
    Logs (referenceImageId reference)
      (fun found added => ∃ stdout, added = [⟨listArgv reference, .completed stdout⟩] ∧
        listedImageId stdout = some found)
      fun added => ∀ command ∈ added, command.argv = listArgv reference := by
  apply logs_issue_bind (by simp) (by simp)
  intro stdout
  apply logs_present (by simp)
  intro found listed
  exact ⟨stdout, rfl, listed⟩

theorem logs_requireNoContainerReferences (imageId : String) :
    Logs (requireNoContainerReferences imageId)
      (fun _ added => ∃ stdout, added = [⟨containersArgv imageId, .completed stdout⟩] ∧
        isBlank stdout = true)
      fun added => ∀ command ∈ added, command.argv = containersArgv imageId := by
  apply logs_issue_bind (by simp) (by simp)
  intro stdout
  refine logs_require ?_ (by simp)
  intro blank
  exact ⟨stdout, rfl, blank⟩

/-- The commands only list references. -/
def ListsOnly (references : List String) (issued : List Issued) : Prop :=
  ∀ command ∈ issued, ∃ reference ∈ references, command.argv = listArgv reference

theorem quiet_of_listsOnly {references : List String} {issued : List Issued}
    (lists : ListsOnly references issued) : Quiet issued := by
  intro command member
  obtain ⟨reference, -, same⟩ := lists command member
  rw [same]
  exact not_isRemoval_listArgv

theorem logs_requireAbsent (references : List String) :
    Logs (requireAbsent references) (fun _ => ListsOnly references) (ListsOnly references) := by
  induction references with
  | nil => exact Logs.pure nofun
  | cons reference references ih =>
      have first : ∀ issued : List Issued,
          (∀ command ∈ issued, command.argv = listArgv reference) →
          ListsOnly (reference :: references) issued :=
        fun issued same command member => ⟨reference, List.mem_cons_self, same command member⟩
      have rest : ∀ stdout issued, ListsOnly references issued →
          ListsOnly (reference :: references)
            ([⟨listArgv reference, .completed stdout⟩] ++ issued) := by
        intro stdout issued lists command member
        rcases List.mem_cons.mp member with rfl | later
        · exact ⟨reference, List.mem_cons_self, rfl⟩
        · obtain ⟨other, listed, same⟩ := lists command later
          exact ⟨other, List.mem_cons_of_mem _ listed, same⟩
      apply Logs.bind ((logs_referenceImageId reference).conseq (fun _ _ seen => seen) first)
      rintro found _ ⟨stdout, rfl, -⟩
      apply logs_require_bind (rest stdout [] nofun)
      intro _
      exact ih.conseq (fun _ => rest stdout) (rest stdout)

theorem logs_removeCleanupReference (reference imageId : String) (inspectedTags : List String) :
    Logs (removeCleanupReference reference imageId inspectedTags)
      (fun _ added => RemovesListed reference imageId added ∧ SeenAbsent reference added)
      (RemovesListed reference imageId) := by
  have only : ∀ issued : List Issued, (∀ command ∈ issued, command.argv = listArgv reference) →
      Quiet issued := fun _ => quiet_of_argv not_isRemoval_listArgv
  have listing : ∀ stdout, Quiet [(⟨listArgv reference, .completed stdout⟩ : Issued)] :=
    fun stdout => only _ (by simp)
  apply Logs.bind ((logs_referenceImageId reference).conseq (fun _ _ seen => seen)
    fun issued same => .inl (only issued same))
  rintro found _ ⟨stdout, rfl, listed⟩
  cases found with
  | none =>
      refine logs_require ?_ (.inl (listing stdout))
      intro _
      exact ⟨.inl (listing stdout), [], stdout, [], rfl, listed, nofun⟩
  | some referencedId =>
      apply logs_require_bind (.inl (listing stdout))
      rintro rfl
      have removal : ∀ outcome later, Quiet later → RemovesListed reference referencedId
          ([⟨listArgv reference, .completed stdout⟩] ++ ⟨removeArgv reference, outcome⟩ :: later) :=
        fun outcome later quiet => .inr ⟨stdout, outcome, later, rfl, listed, quiet⟩
      apply logs_issue_bind (.inl (listing stdout)) fun code => removal _ [] quiet_nil
      intro removed
      apply Logs.bind ((logs_referenceImageId reference).conseq (fun _ _ seen => seen)
        fun issued same => removal _ issued (only issued same))
      rintro remaining _ ⟨last, rfl, absent⟩
      refine logs_require ?_ (removal _ _ (listing last))
      rintro rfl
      exact ⟨removal _ _ (listing last),
        [⟨listArgv reference, .completed stdout⟩, ⟨removeArgv reference, .completed removed⟩],
        last, [], rfl, absent, nofun⟩

end Session

section Steps

open Session PlatformReaders

variable {environment : Option EnvironmentFile} {task : UpdateTask} {step : CleanupStep}
  {reference : String} {earlier added : List Issued}

theorem removesRecorded_append (admitted : StepAdmitted environment task step)
    (ofStep : task.cleanupReference step = some reference) (quiet : Quiet earlier)
    (noContainers : ∃ stdout,
      ⟨containersArgv task.original.imageId, .completed stdout⟩ ∈ earlier ∧ isBlank stdout = true)
    (removes : RemovesListed reference task.original.imageId added) :
    RemovesRecorded environment task step (earlier ++ added) := by
  rcases removes with none | ⟨stdout, outcome, later, rfl, listed, quietLater⟩
  · exact .inl (quiet_append.mpr ⟨quiet, none⟩)
  · refine .inr ⟨earlier ++ [⟨listArgv reference, .completed stdout⟩], reference, outcome, later,
      by simp, ?_, quietLater, ofStep, admitted, ?_, stdout, by simp, listed⟩
    · exact quiet_append.mpr ⟨quiet, quiet_cons.mpr ⟨not_isRemoval_listArgv, quiet_nil⟩⟩
    · obtain ⟨output, member, blank⟩ := noContainers
      exact ⟨output, List.mem_append_left _ member, blank⟩

theorem SeenAbsent.append (absent : SeenAbsent reference added) :
    SeenAbsent reference (earlier ++ added) := by
  obtain ⟨before, stdout, later, rfl, listed, others⟩ := absent
  exact ⟨earlier ++ before, stdout, later, (List.append_assoc _ _ _).symm, listed, others⟩

/-- What a step logs that returns. -/
def Finishes (environment : Option EnvironmentFile) (task : UpdateTask) (step : CleanupStep)
    (issued : List Issued) : Prop :=
  RemovesRecorded environment task step issued ∧
    ∃ reference, task.cleanupReference step = some reference ∧ SeenAbsent reference issued

/-- The end of both steps for tags: another reference is listed, and the own one is removed. -/
theorem logs_listing_removal (admitted : StepAdmitted environment task step)
    (ofStep : task.cleanupReference step = some reference) (quiet : Quiet earlier)
    (noContainers : ∃ stdout,
      ⟨containersArgv task.original.imageId, .completed stdout⟩ ∈ earlier ∧ isBlank stdout = true)
    (other : String) (expected : Option String) (tags : List String) :
    Logs (do
        let found ← referenceImageId other
        require (found = expected)
        removeCleanupReference reference task.original.imageId tags)
      (fun _ more => Finishes environment task step (earlier ++ more))
      fun more => RemovesRecorded environment task step (earlier ++ more) := by
  apply Logs.bind ((logs_referenceImageId other).conseq (fun _ _ seen => seen)
    fun issued same => .inl (by simp [quiet, quiet_of_argv not_isRemoval_listArgv same]))
  rintro found _ ⟨stdout, rfl, -⟩
  have quietBefore : Quiet (earlier ++ [⟨listArgv other, .completed stdout⟩]) := by simp [quiet]
  have noContainersBefore : ∃ stdout', ⟨containersArgv task.original.imageId, .completed stdout'⟩ ∈
      earlier ++ [⟨listArgv other, .completed stdout⟩] ∧ isBlank stdout' = true := by
    obtain ⟨output, member, blank⟩ := noContainers
    exact ⟨output, List.mem_append_left _ member, blank⟩
  apply logs_require_bind (.inl quietBefore)
  intro _
  refine (logs_removeCleanupReference _ _ _).conseq ?_ ?_
  · rintro _ added ⟨removes, absent⟩
    rw [← List.append_assoc]
    exact ⟨removesRecorded_append admitted ofStep quietBefore noContainersBefore removes, reference,
      ofStep, absent.append⟩
  · intro added removes
    rw [← List.append_assoc]
    exact removesRecorded_append admitted ofStep quietBefore noContainersBefore removes

theorem logs_cleanupTag (readers : PlatformReaders) (admitted : StepAdmitted environment task step)
    (isTag : step ≠ .imageId) :
    Logs (readers.cleanupTag task step) (fun _ => Finishes environment task step)
      (RemovesRecorded environment task step) := by
  apply Logs.bind ((logs_inspectImage readers _ _).conseq (fun _ _ seen => seen)
    fun issued same => .inl (quiet_of_argv not_isRemoval_inspectArgv same))
  rintro inspected _ ⟨looked, payload, rfl, -, -⟩
  apply logs_require_bind (.inl (by simp))
  intro _
  apply logs_require_bind (.inl (by simp))
  intro _
  apply Logs.bind ((logs_requireNoContainerReferences _).conseq (fun _ _ seen => seen)
    fun issued same => .inl (by simp [quiet_of_argv not_isRemoval_containersArgv same]))
  rintro _ _ ⟨output, rfl, blank⟩
  have noContainers : ∃ stdout,
      (⟨containersArgv task.original.imageId, .completed stdout⟩ : Issued) ∈
      [⟨inspectArgv task.original.imageId, .completed looked⟩,
        ⟨containersArgv task.original.imageId, .completed output⟩] ∧ isBlank stdout = true :=
    ⟨output, by simp, blank⟩
  have quiet : Quiet [⟨inspectArgv task.original.imageId, .completed looked⟩,
      ⟨containersArgv task.original.imageId, .completed output⟩] := by simp
  apply logs_present_bind (.inl (by simp))
  intro version head
  by_cases isVersion : step = .versionTag
  · subst isVersion
    rw [if_pos rfl]
    apply logs_require_bind (.inl (by simp))
    intro _
    have ends := logs_listing_removal admitted head quiet noContainers
    exact ends _ _ _
  · have ofStep : task.cleanupReference step = some task.original.rollbackAlias := by
      cases step with
      | versionTag => exact absurd rfl isVersion
      | rollbackAlias => rfl
      | imageId => exact absurd rfl isTag
    rw [if_neg isVersion]
    apply logs_require_bind (.inl (by simp))
    intro _
    have ends := logs_listing_removal admitted ofStep quiet noContainers
    exact ends _ _ _

theorem head_of_isDigest {value : String} (valid : isDigest value = true) :
    value.toList.head? = some 's' := by
  have digestHead : "sha256:".toList.head? = some 's' := by decide
  cases shape : value.toList.head? with
  | none =>
      rw [List.head?_eq_none_iff] at shape
      rw [isDigest, shape] at valid
      cases valid
  | some found =>
      by_contra differ
      have other : found ≠ 's' := fun same => differ (congrArg some same)
      rw [isDigest, digestClasses, Patterns.fits_literal_of_head_ne digestHead shape other] at valid
      cases valid

/-- No recorded tag is spelt like the id of the image. -/
theorem reference_ne_imageId (valid : validateCleanupTask task = true)
    (member : reference ∈ task.original.tags ++ [task.original.rollbackAlias]) :
    reference ≠ task.original.imageId := by
  simp only [validateCleanupTask, isOriginal, Bool.and_eq_true, decide_eq_true_eq] at valid
  obtain ⟨⟨⟨⟨⟨-, isImageId⟩, tags⟩, -⟩, isAlias⟩, -⟩ := valid
  have imageHead := head_of_isDigest isImageId
  have tagHead : (versionTag task.original.version).toList.head? = some 'g' := by
    simp [versionTag, webRepository]
  have aliasHead : (aliasOf task.id).toList.head? = some 'f' := by
    rw [aliasOf_toList]
    simp [aliasRepository]
  rw [tags, isAlias] at member
  rintro rfl
  rcases List.mem_cons.mp member with same | last
  · rw [same, tagHead] at imageHead
    cases imageHead
  · rw [List.mem_singleton.mp last, aliasHead] at imageHead
    cases imageHead

theorem logs_cleanupImageId (readers : PlatformReaders)
    (admitted : StepAdmitted environment task .imageId) :
    Logs (readers.cleanupImageId task) (fun _ => Finishes environment task .imageId)
      (RemovesRecorded environment task .imageId) := by
  apply Logs.bind ((logs_referenceImageId _).conseq (fun _ _ seen => seen)
    fun issued same => .inl (quiet_of_argv not_isRemoval_listArgv same))
  rintro found _ ⟨stdout, rfl, listed⟩
  cases found with
  | none =>
      apply Logs.bind ((logs_requireNoContainerReferences _).conseq (fun _ _ seen => seen)
        fun issued same => .inl (by simp [quiet_of_argv not_isRemoval_containersArgv same]))
      rintro _ _ ⟨output, rfl, -⟩
      refine (logs_requireAbsent _).conseq ?_ fun issued lists =>
        .inl (by simp [quiet_of_listsOnly lists])
      intro _ issued lists
      refine ⟨.inl (by simp [quiet_of_listsOnly lists]), _, rfl, [], stdout, _, rfl, listed, ?_⟩
      intro command member
      rcases List.mem_cons.mp member with rfl | later
      · simp [containersArgv, listArgv]
      · obtain ⟨reference, recorded, same⟩ := lists command later
        rw [same, Ne, listArgv_inj]
        exact reference_ne_imageId admitted.valid recorded
  | some imageId =>
      apply logs_require_bind (.inl (by simp))
      rintro rfl
      apply Logs.bind ((logs_inspectImage readers _ _).conseq (fun _ _ seen => seen)
        fun issued same => .inl (by simp [quiet_of_argv not_isRemoval_inspectArgv same]))
      rintro inspected _ ⟨looked, payload, rfl, -, -⟩
      apply logs_require_bind (.inl (by simp))
      intro _
      apply Logs.bind ((logs_requireNoContainerReferences _).conseq (fun _ _ seen => seen)
        fun issued same => .inl (by simp [quiet_of_argv not_isRemoval_containersArgv same]))
      rintro _ _ ⟨output, rfl, blank⟩
      apply Logs.bind ((logs_requireAbsent _).conseq (fun _ _ seen => seen) fun issued lists =>
        .inl (by simp [quiet_of_listsOnly lists]))
      intro _ absent lists
      have removal : ∀ outcome later, Quiet later → RemovesRecorded environment task .imageId
          ([⟨listArgv task.original.imageId, .completed stdout⟩] ++
            ([⟨inspectArgv task.original.imageId, .completed looked⟩] ++
              ([⟨containersArgv task.original.imageId, .completed output⟩] ++
                (absent ++ ⟨removeArgv task.original.imageId, outcome⟩ :: later)))) := by
        intro outcome later quiet
        refine .inr ⟨[⟨listArgv task.original.imageId, .completed stdout⟩,
          ⟨inspectArgv task.original.imageId, .completed looked⟩,
          ⟨containersArgv task.original.imageId, .completed output⟩] ++ absent,
          task.original.imageId, outcome, later, by simp, ?_, quiet, rfl, admitted, ?_⟩
        · simp [quiet_of_listsOnly lists]
        · exact ⟨⟨output, by simp, blank⟩, stdout, by simp, listed⟩
      apply logs_issue_bind (.inl (by simp [quiet_of_listsOnly lists]))
        fun code => removal _ [] quiet_nil
      intro removed
      apply Logs.bind ((logs_referenceImageId _).conseq (fun _ _ seen => seen)
        fun issued same => removal _ issued (quiet_of_argv not_isRemoval_listArgv same))
      rintro remaining _ ⟨last, rfl, gone⟩
      refine logs_require ?_ (removal _ _ (by simp))
      rintro rfl
      refine ⟨removal _ _ (by simp), _, rfl, ?_⟩
      have seen : SeenAbsent task.original.imageId
          (⟨removeArgv task.original.imageId, .completed removed⟩ ::
            [⟨listArgv task.original.imageId, .completed last⟩]) :=
        ⟨[⟨removeArgv task.original.imageId, .completed removed⟩], last, [], rfl, gone, nofun⟩
      exact seen.append.append.append.append

theorem logs_cleanupOriginalStep (readers : PlatformReaders)
    (environment : Option EnvironmentFile) (task : UpdateTask) (step : CleanupStep) :
    Logs (readers.cleanupOriginalStep environment task step)
      (fun _ => Finishes environment task step) (RemovesRecorded environment task step) := by
  have nothing : RemovesRecorded environment task step [] := .inl quiet_nil
  apply logs_withCode
  apply logs_require_bind nothing
  intro valid
  apply logs_present_bind nothing
  rintro ⟨content, values⟩ read
  apply logs_require_bind nothing
  intro sameTag
  apply logs_require_bind nothing
  intro started
  obtain ⟨file, present, found⟩ := Option.bind_eq_some_iff.mp read
  have admitted : StepAdmitted environment task step :=
    ⟨valid, ⟨file, content, values, present, found, sameTag⟩, started⟩
  by_cases isImageId : step = .imageId
  · subst isImageId
    rw [if_pos rfl]
    exact logs_cleanupImageId readers admitted
  · rw [if_neg isImageId]
    exact logs_cleanupTag readers admitted isImageId

/-- One call of a cleanup step removes at most one thing: what the task recorded for the step, after
the environment, the journal and the outputs of docker licensed it.  A call that returns has last
seen that reference absent. -/
theorem cleanup_removes_recorded (readers : PlatformReaders)
    (environment : Option EnvironmentFile) (task : UpdateTask) (step : CleanupStep)
    (outcomes : List CommandOutcome) :
    RemovesRecorded environment task step
        ((readers.cleanupOriginalStep environment task step).leaves [] outcomes) ∧
      ((readers.cleanupOriginalStep environment task step [] outcomes).1 = .returned () →
        ∃ reference, task.cleanupReference step = some reference ∧ SeenAbsent reference
          ((readers.cleanupOriginalStep environment task step).leaves [] outcomes)) := by
  obtain ⟨issued, left, ended⟩ := logs_cleanupOriginalStep readers environment task step [] outcomes
  rw [left, List.nil_append]
  cases outcome : (readers.cleanupOriginalStep environment task step [] outcomes).1 with
  | returned value =>
      rw [outcome] at ended
      exact ⟨ended.1, fun _ => ended.2⟩
  | raised error =>
      rw [outcome] at ended
      exact ⟨ended, nofun⟩
  | crashed =>
      rw [outcome] at ended
      exact ⟨ended, nofun⟩

end Steps

end Finrec.Updater
