import Finrec.Lib.Digits
import Finrec.Lib.Json
import Finrec.Lib.Patterns
import Finrec.Lib.PythonText
import Mathlib.Data.List.Nodup

/-!
# JSON texts

`json.dumps` with the narrow separators writes ASCII only, everything else as
`\u` escapes of UTF-16.  `json.loads` reads what it writes, but for two halves of
a surrogate pair in a row: their escapes are those of one character, and as that
character they are read.
-/

namespace Json

open Patterns PythonText

/-! ## Writing -/

def hexText (code : ℕ) : List Char := (Uuid.hexDigits 4 code).map Uuid.digitChar

def unicodeEscape (code : ℕ) : List Char := '\\' :: 'u' :: hexText code

/-- The escapes of one letter. -/
def shortEscapes : List (Char × Char) :=
  [('"', '"'), ('\\', '\\'), ('\n', 'n'), ('\r', 'r'), ('\t', 't'), ('\x08', 'b'), ('\x0c', 'f')]

def escapeChar (character : Char) : List Char :=
  match shortEscapes.lookup character with
  | some letter => ['\\', letter]
  | none =>
      if 32 ≤ character.toNat ∧ character.toNat ≤ 126 then [character]
      else if character.toNat < 0x10000 then unicodeEscape character.toNat
      else unicodeEscape (0xd800 + (character.toNat - 0x10000) / 0x400) ++
        unicodeEscape (0xdc00 + (character.toNat - 0x10000) % 0x400)

def escape : CodePoint → List Char
  | .scalar character => escapeChar character
  | .surrogate half => unicodeEscape (0xd800 + half.val)

/-- A text in quotes. -/
def quote (text : PythonText) : List Char := '"' :: (text.flatMap escape ++ ['"'])

mutual

/-- `json.dumps(..., separators=(",", ":"))`. -/
def dumps : Json PythonText → List Char
  | .null => ['n', 'u', 'l', 'l']
  | .bool true => ['t', 'r', 'u', 'e']
  | .bool false => ['f', 'a', 'l', 's', 'e']
  | .number text => text.toList
  | .string value => quote value
  | .array [] => ['[', ']']
  | .array (item :: items) => '[' :: (dumps item ++ dumpsItems items)
  | .object [] => ['\x7b', '\x7d']
  | .object ((name, item) :: fields) =>
      '\x7b' :: (quote name ++ ':' :: (dumps item ++ dumpsFields fields))

/-- The items after the first one, and the end of the array. -/
def dumpsItems : List (Json PythonText) → List Char
  | [] => [']']
  | item :: items => ',' :: (dumps item ++ dumpsItems items)

def dumpsFields : List (PythonText × Json PythonText) → List Char
  | [] => ['\x7d']
  | (name, item) :: fields => ',' :: (quote name ++ ':' :: (dumps item ++ dumpsFields fields))

end

/-! ## Reading -/

def isSpace : CodePoint → Bool
  | .scalar character => character = ' ' || character = '\t' || character = '\n' || character = '\r'
  | .surrogate _ => false

def skipSpace (text : PythonText) : PythonText := text.dropWhile isSpace

def hex? : PythonText → Option (ℕ × PythonText)
  | first :: second :: third :: fourth :: rest =>
      ([first, second, third, fourth].mapM fun point => (CodePoint.char? point).bind
        Uuid.digitValue?).map fun digits => (Uuid.number digits, rest)
  | _ => none

/-- A `\u` escape after its first two characters.  Where the escape of the other half of a pair
follows, the two are one character. -/
def unicode? (text : PythonText) : Option (CodePoint × PythonText) :=
  match hex? text with
  | none => none
  | some (code, rest) =>
      if 0xd800 ≤ code ∧ code ≤ 0xdbff then
        match rest with
        | .scalar '\\' :: .scalar 'u' :: after =>
            match hex? after with
            | none => none
            | some (low, after) =>
                if 0xdc00 ≤ low ∧ low ≤ 0xdfff then
                  some (.ofCode (0x10000 + (code - 0xd800) * 0x400 + (low - 0xdc00)), after)
                else some (.ofCode code, rest)
        | _ => some (.ofCode code, rest)
      else some (.ofCode code, rest)

/-- The characters that the letters of the short escapes stand for. -/
def shortMeanings : List (Char × Char) :=
  ('/', '/') :: shortEscapes.map fun escape => (escape.2, escape.1)

/-- One code point of a text in quotes. -/
def unit? : PythonText → Option (CodePoint × PythonText)
  | [] => none
  | .scalar '\\' :: rest =>
      match rest with
      | .scalar 'u' :: rest => unicode? rest
      | .scalar letter :: rest =>
          (shortMeanings.lookup letter).map fun character => (.scalar character, rest)
      | _ => none
  | .scalar character :: rest =>
      if character.toNat < 32 then none else some (.scalar character, rest)
  | half :: rest => some (half, rest)

/-- The code points up to the closing quote. -/
def stringBody? : ℕ → PythonText → Option (PythonText × PythonText)
  | 0, _ => none
  | fuel + 1, text =>
      match text with
      | .scalar '"' :: rest => some ([], rest)
      | text =>
          match unit? text with
          | none => none
          | some (point, rest) =>
              (stringBody? fuel rest).map fun body => (point :: body.1, body.2)

/-- `-?(?:0|[1-9][0-9]*)(\.[0-9]+)?([eE][-+]?[0-9]+)?`, as much of it as there is. -/
def number? (text : List Char) : Option (List Char × List Char) :=
  let (sign, unsigned) := if text.head? = some '-' then (['-'], text.tail) else ([], text)
  let (whole, rest) :=
    if unsigned.head? = some '0' then (['0'], unsigned.tail) else unsigned.span Digits.isDigit
  let (fraction, rest) :=
    let (digits, after) := rest.tail.span Digits.isDigit
    if rest.head? = some '.' ∧ digits ≠ [] then ('.' :: digits, after) else ([], rest)
  let (exponent, rest) :=
    let signed := rest.tail.takeWhile fun character => character = '-' || character = '+'
    let (digits, after) := (rest.tail.drop signed.length).span Digits.isDigit
    if (rest.head? = some 'e' ∨ rest.head? = some 'E') ∧ signed.length ≤ 1 ∧ digits ≠ [] then
      (rest.take 1 ++ signed ++ digits, after)
    else ([], rest)
  if whole = [] then none else some (sign ++ whole ++ fraction ++ exponent, rest)

def keywords : List (List Char × Json PythonText) :=
  [(['n', 'u', 'l', 'l'], .null), (['t', 'r', 'u', 'e'], .bool true),
    (['f', 'a', 'l', 's', 'e'], .bool false), ("NaN".toList, .number "NaN"),
    ("Infinity".toList, .number "Infinity"), ("-Infinity".toList, .number "-Infinity")]

/-- The characters before the first half. -/
def characters (text : PythonText) : List Char :=
  (text.takeWhile fun point => point.char?.isSome).filterMap CodePoint.char?

/-- A constant or a number. -/
def scalar? (text : PythonText) : Option (Json PythonText × PythonText) :=
  match keywords.find? fun keyword => keyword.1.isPrefixOf (characters text) with
  | some keyword => some (keyword.2, text.drop keyword.1.length)
  | none =>
      (number? (characters text)).map fun found =>
        (.number (String.ofList found.1), text.drop found.1.length)

/-- The dict of pairs: a name that comes again gets its last value. -/
def dictOf (pairs : List (PythonText × Json PythonText)) : List (PythonText × Json PythonText) :=
  pairs.foldl (fun fields pair =>
    if pair.1 ∈ fields.map Prod.fst then
      fields.map fun field => if field.1 = pair.1 then pair else field
    else fields ++ [pair]) []

mutual

def value? : ℕ → PythonText → Option (Json PythonText × PythonText)
  | 0, _ => none
  | fuel + 1, text =>
      match text with
      | .scalar '"' :: rest =>
          (stringBody? rest.length rest).map fun body => (.string body.1, body.2)
      | .scalar '[' :: rest =>
          match skipSpace rest with
          | .scalar ']' :: rest => some (.array [], rest)
          | rest => (elements? fuel rest).map fun found => (.array found.1, found.2)
      | .scalar '\x7b' :: rest =>
          match skipSpace rest with
          | .scalar '\x7d' :: rest => some (.object [], rest)
          | rest => (members? fuel rest).map fun found => (.object (dictOf found.1), found.2)
      | text => scalar? text

def elements? : ℕ → PythonText → Option (List (Json PythonText) × PythonText)
  | 0, _ => none
  | fuel + 1, text =>
      match value? fuel text with
      | none => none
      | some (item, rest) =>
          match skipSpace rest with
          | .scalar ']' :: rest => some ([item], rest)
          | .scalar ',' :: rest =>
              (elements? fuel (skipSpace rest)).map fun found => (item :: found.1, found.2)
          | _ => none

def members? : ℕ → PythonText → Option (List (PythonText × Json PythonText) × PythonText)
  | 0, _ => none
  | fuel + 1, text =>
      match text with
      | .scalar '"' :: rest =>
          match stringBody? rest.length rest with
          | none => none
          | some (name, rest) =>
              match skipSpace rest with
              | .scalar ':' :: rest =>
                  match value? fuel (skipSpace rest) with
                  | none => none
                  | some (item, rest) =>
                      match skipSpace rest with
                      | .scalar '\x7d' :: rest => some ([(name, item)], rest)
                      | .scalar ',' :: rest =>
                          (members? fuel (skipSpace rest)).map fun found =>
                            ((name, item) :: found.1, found.2)
                      | _ => none
              | _ => none
      | _ => none

end

/-- `json.loads`, without the limits of the interpreter: 4300 digits of a number and the depth of its
stack. -/
def loads (text : PythonText) : Option (Json PythonText) :=
  match value? (text.length + 1) (skipSpace text) with
  | some (value, rest) => if skipSpace rest = [] then some value else none
  | none => none

/-! ## Bytes -/

/-- `detect_encoding`: UTF-16 and UTF-32 show their byte order mark or an early zero. -/
def isWide (bytes : List UInt8) : Bool :=
  [0xfe, 0xff].isPrefixOf bytes || [0xff, 0xfe].isPrefixOf bytes ||
    (4 ≤ bytes.length || bytes.length = 2) && (bytes.take 2).contains 0

/-- `json.loads` of bytes, with a reader of the wide encodings. -/
def loadsBytes (wide : List UInt8 → Option PythonText) (bytes : List UInt8) :
    Option (Json PythonText) :=
  if isWide bytes then (wide bytes).bind loads
  else
    let body := if [0xef, 0xbb, 0xbf].isPrefixOf bytes then bytes.drop 3 else bytes
    (utf8Decode? body).bind loads

/-- `str.encode()`. -/
def encode (text : List Char) : List UInt8 := (String.ofList text).toUTF8.data.toList

/-! ## Texts in quotes -/

section Quotes

variable {character : Char} {text rest : PythonText}

theorem hex?_hexText {code : ℕ} (small : code < 0x10000) :
    hex? (ofChars (hexText code) ++ rest) = some (code, rest) := by
  have number : Uuid.number (Uuid.hexDigits 4 code) = code := Uuid.number_hexDigits small
  have length := Uuid.length_hexDigits 4 code
  unfold hexText
  generalize Uuid.hexDigits 4 code = digits at number length
  match digits with
  | [first, second, third, fourth] =>
      simp [hex?, CodePoint.char?, Uuid.digitValue?_digitChar, number]

/-- The other half of a pair does not follow. -/
def NotLow (rest : PythonText) : Prop :=
  ∀ after, rest = .scalar '\\' :: .scalar 'u' :: after →
    ∃ code more, hex? after = some (code, more) ∧ ¬ (0xdc00 ≤ code ∧ code ≤ 0xdfff)

theorem unicode?_hexText {code : ℕ} (small : code < 0x10000)
    (alone : 0xd800 ≤ code ∧ code ≤ 0xdbff → NotLow rest) :
    unicode? (ofChars (hexText code) ++ rest) = some (.ofCode code, rest) := by
  simp only [unicode?, hex?_hexText small]
  split_ifs with isHigh
  · split
    · rename_i after
      obtain ⟨low, more, found, notLow⟩ := alone isHigh after rfl
      simp only [found, if_neg notLow]
    · rfl
  · rfl

/-- The two halves of a pair. -/
theorem unicode?_hexText_pair {high low : ℕ} (isHigh : 0xd800 ≤ high ∧ high ≤ 0xdbff)
    (isLow : 0xdc00 ≤ low ∧ low ≤ 0xdfff) :
    unicode? (ofChars (hexText high ++ unicodeEscape low) ++ rest) =
      some (.ofCode (0x10000 + (high - 0xd800) * 0x400 + (low - 0xdc00)), rest) := by
  have highSmall : high < 0x10000 := by omega
  have lowSmall : low < 0x10000 := by omega
  simp only [unicode?, ofChars_append, List.append_assoc, hex?_hexText highSmall, isHigh, and_self,
    if_true, unicodeEscape, ofChars_cons, List.cons_append, hex?_hexText lowSmall, isLow]

theorem unit?_unicodeEscape (code : ℕ) :
    unit? (ofChars (unicodeEscape code) ++ rest) = unicode? (ofChars (hexText code) ++ rest) := rfl

/-- The halves of the pair of a character give it back. -/
theorem joined_halves (astral : ¬ character.toNat < 0x10000) :
    ∃ high low, high = 0xd800 + (character.toNat - 0x10000) / 0x400 ∧
      low = 0xdc00 + (character.toNat - 0x10000) % 0x400 ∧ (0xd800 ≤ high ∧ high ≤ 0xdbff) ∧
      (0xdc00 ≤ low ∧ low ≤ 0xdfff) ∧
      0x10000 + (high - 0xd800) * 0x400 + (low - 0xdc00) = character.toNat := by
  have small : character.val.toNat < 0x110000 := by
    rcases character.valid with low | high
    · omega
    · exact high.2
  change ¬ character.val.toNat < 0x10000 at astral
  change ∃ high low, high = 0xd800 + (character.val.toNat - 0x10000) / 0x400 ∧
    low = 0xdc00 + (character.val.toNat - 0x10000) % 0x400 ∧ _ ∧ _ ∧ _ = character.val.toNat
  generalize character.val.toNat = code at small astral
  refine ⟨_, _, rfl, rfl, ?_, ?_, ?_⟩
  all_goals omega

theorem mem_shortEscapes {letter : Char} (found : shortEscapes.lookup character = some letter) :
    (character, letter) ∈ shortEscapes := by
  obtain ⟨before, after, split, -⟩ := List.lookup_eq_some_iff.mp found
  rw [split]
  simp

theorem unit?_shortEscape {letter : Char} (found : shortEscapes.lookup character = some letter) :
    unit? (.scalar '\\' :: .scalar letter :: rest) = some (.scalar character, rest) := by
  have member := mem_shortEscapes found
  simp only [shortEscapes, List.mem_cons, Prod.mk.injEq, List.not_mem_nil, or_false] at member
  rcases member with ⟨rfl, rfl⟩ | ⟨rfl, rfl⟩ | ⟨rfl, rfl⟩ | ⟨rfl, rfl⟩ | ⟨rfl, rfl⟩ | ⟨rfl, rfl⟩ |
    ⟨rfl, rfl⟩
  all_goals rfl

/-- No character has the number of a half. -/
theorem not_half (character : Char) : ¬ (0xd800 ≤ character.toNat ∧ character.toNat ≤ 0xdfff) := by
  rcases character.valid with low | high
  · change ¬ (0xd800 ≤ character.val.toNat ∧ _)
    omega
  · change ¬ (_ ∧ character.val.toNat ≤ 0xdfff)
    omega

/-- The escape of a character is read as the character, whatever follows. -/
theorem unit?_escapeChar (character : Char) (rest : PythonText) :
    unit? (ofChars (escapeChar character) ++ rest) = some (.scalar character, rest) := by
  unfold escapeChar
  cases found : shortEscapes.lookup character with
  | some letter => exact unit?_shortEscape found
  | none =>
      simp only
      split_ifs with plain basic
      · have notSlash : character ≠ '\\' := by
          rintro rfl
          cases found
        rw [ofChars_cons, ofChars_nil, List.singleton_append, unit?]
        · rw [if_neg (by omega)]
        · exact notSlash
      · have noHalf := not_half character
        rw [unit?_unicodeEscape, unicode?_hexText basic (fun isHigh => by omega),
          CodePoint.ofCode_toNat]
      · obtain ⟨high, low, highEq, lowEq, isHigh, isLow, joined⟩ := joined_halves basic
        rw [← highEq, ← lowEq, ofChars_append, List.append_assoc, unit?_unicodeEscape,
          ← List.append_assoc, ← ofChars_append, unicode?_hexText_pair isHigh isLow, joined,
          CodePoint.ofCode_toNat]

/-- The escape of a half is read as the half, if that of its other half does not follow. -/
theorem unit?_half (half : Fin 0x800) (alone : half.val < 0x400 → NotLow rest) :
    unit? (ofChars (escape (.surrogate half)) ++ rest) = some (.surrogate half, rest) := by
  have := half.isLt
  rw [escape, unit?_unicodeEscape, unicode?_hexText (by omega), CodePoint.ofCode_half]
  intro isHigh
  exact alone (by omega)

theorem unit?_pair {high low : Fin 0x800} (pair : CodePoint.pair? (.surrogate high)
      (.surrogate low) = some character) :
    unit? (ofChars (escape (.surrogate high) ++ escape (.surrogate low)) ++ rest) =
      some (.scalar character, rest) := by
  have := low.isLt
  simp only [CodePoint.pair?] at pair
  split_ifs at pair with halves
  have code : 0x10000 + (0xd800 + high.val - 0xd800) * 0x400 + (0xd800 + low.val - 0xdc00) =
      0x10000 + high.val * 0x400 + (low.val - 0x400) := by omega
  have joined : CodePoint.ofCode (0x10000 + high.val * 0x400 + (low.val - 0x400)) =
      .scalar character := (dif_neg (by omega)).trans (congrArg _ (Option.some.inj pair))
  have read := @unicode?_hexText_pair rest (0xd800 + high.val) (0xd800 + low.val) (by omega)
    (by omega)
  exact read.trans (congrArg (fun point => some (point, rest)) ((congrArg _ code).trans joined))

/-- What does not pair with a high half has another escape than a low half. -/
theorem notLow_escape {high : Fin 0x800} {second : CodePoint} (isHigh : high.val < 0x400)
    (alone : CodePoint.pair? (.surrogate high) second = none) :
    NotLow (ofChars (escape second) ++ rest) := by
  intro after same
  cases second with
  | surrogate half =>
      have := half.isLt
      have notLow : ¬ 0x400 ≤ half.val := by
        intro low
        simp [CodePoint.pair?, isHigh, low] at alone
      refine ⟨0xd800 + half.val, rest, ?_, by omega⟩
      simp only [escape, unicodeEscape, ofChars_cons, List.cons_append, List.cons.injEq, true_and]
        at same
      rw [← same, hex?_hexText (by omega)]
  | scalar character =>
      simp only [escape, escapeChar] at same
      cases found : shortEscapes.lookup character with
      | some letter =>
          have letters : ∀ escape ∈ shortEscapes, escape.2 ≠ 'u' := by decide
          rw [found] at same
          simp only [ofChars_cons, ofChars_nil, List.cons_append, List.cons.injEq,
            CodePoint.scalar.injEq, true_and] at same
          exact absurd same.1 (letters _ (mem_shortEscapes found))
      | none =>
          rw [found] at same
          simp only at same
          split_ifs at same with plain basic
          · simp only [ofChars_cons, ofChars_nil, List.cons_append, List.cons.injEq,
              CodePoint.scalar.injEq] at same
            rw [same.1] at found
            cases found
          · have noHalf := not_half character
            refine ⟨character.toNat, rest, ?_, by omega⟩
            simp only [unicodeEscape, ofChars_cons, List.cons_append, List.cons.injEq, true_and]
              at same
            rw [← same, hex?_hexText basic]
          · obtain ⟨first, other, firstEq, otherEq, isFirst, -, -⟩ := joined_halves basic
            rw [← firstEq, ← otherEq] at same
            refine ⟨first, ofChars (unicodeEscape other) ++ rest, ?_, by omega⟩
            simp only [unicodeEscape, ofChars_append, ofChars_cons, List.append_assoc,
              List.cons_append, List.cons.injEq, true_and] at same
            rw [← same, hex?_hexText (by omega)]
            simp [unicodeEscape]

theorem escape_head (point : CodePoint) :
    ∃ first more, escape point = first :: more ∧ first ≠ '"' := by
  cases point with
  | surrogate half => exact ⟨'\\', _, rfl, by decide⟩
  | scalar character =>
      simp only [escape, escapeChar]
      cases found : shortEscapes.lookup character with
      | some letter => exact ⟨'\\', [letter], rfl, by decide⟩
      | none =>
          have notQuote : character ≠ '"' := by
            rintro rfl
            cases found
          simp only
          split_ifs
          · exact ⟨character, [], rfl, notQuote⟩
          · exact ⟨'\\', _, rfl, by decide⟩
          · exact ⟨'\\', _, rfl, by decide⟩

/-- One escape is read, and then the rest of the text. -/
theorem stringBody?_step {point read : CodePoint} {more : List Char} {fuel : ℕ} {after : PythonText}
    (begins : unit? (ofChars (escape point ++ more) ++ rest) = some (read, after)) :
    stringBody? (fuel + 1) (ofChars (escape point ++ more) ++ rest) =
      (stringBody? fuel after).map fun body => (read :: body.1, body.2) := by
  obtain ⟨first, others, shape, notQuote⟩ := escape_head point
  rw [shape, List.cons_append, ofChars_cons, List.cons_append] at begins ⊢
  rw [stringBody?]
  · rw [begins]
  · intro later same
    cases same
    exact notQuote rfl

/-- The text in quotes is read with its pairs joined. -/
theorem stringBody?_escaped (text : PythonText) {fuel : ℕ} (enough : text.length < fuel) :
    stringBody? fuel (ofChars (text.flatMap escape) ++ .scalar '"' :: rest) =
      some (joinPairs text, rest) := by
  induction text using joinPairs.induct generalizing fuel with
  | case1 =>
      obtain ⟨fuel, rfl⟩ := Nat.exists_eq_add_one_of_ne_zero (Nat.ne_of_gt enough)
      rfl
  | case2 last =>
      obtain ⟨fuel, rfl⟩ := Nat.exists_eq_add_one_of_ne_zero (by omega : fuel ≠ 0)
      obtain ⟨fuel, rfl⟩ := Nat.exists_eq_add_one_of_ne_zero
        (by simp at enough; omega : fuel ≠ 0)
      have alone : unit? (ofChars (escape last ++ []) ++ .scalar '"' :: rest) =
          some (last, .scalar '"' :: rest) := by
        rw [List.append_nil]
        cases last with
        | scalar character => exact unit?_escapeChar character _
        | surrogate half => exact unit?_half half fun _ after same => by cases same
      rw [List.flatMap_cons, List.flatMap_nil, stringBody?_step alone]
      rfl
  | case3 first second later character pair ih =>
      obtain ⟨fuel, rfl⟩ := Nat.exists_eq_add_one_of_ne_zero (by omega : fuel ≠ 0)
      simp only [List.length_cons] at enough
      cases first with
      | scalar => cases pair
      | surrogate high =>
          cases second with
          | scalar => cases pair
          | surrogate low =>
              have joined := @unit?_pair character
                (ofChars (later.flatMap escape) ++ .scalar '"' :: rest) high low pair
              rw [← List.append_assoc, ← ofChars_append, List.append_assoc] at joined
              rw [List.flatMap_cons, List.flatMap_cons, stringBody?_step joined,
                ih (by omega), joinPairs, pair]
              rfl
  | case4 first second later alone ih =>
      obtain ⟨fuel, rfl⟩ := Nat.exists_eq_add_one_of_ne_zero (by omega : fuel ≠ 0)
      simp only [List.length_cons] at enough ih
      have begins : unit? (ofChars (escape first ++ (second :: later).flatMap escape) ++
          .scalar '"' :: rest) = some (first, ofChars ((second :: later).flatMap escape) ++
            .scalar '"' :: rest) := by
        rw [ofChars_append, List.append_assoc]
        cases first with
        | scalar character => exact unit?_escapeChar character _
        | surrogate high =>
            refine unit?_half high fun isHigh => ?_
            rw [List.flatMap_cons, ofChars_append, List.append_assoc]
            exact notLow_escape isHigh alone
      rw [List.flatMap_cons, stringBody?_step begins, ih (by omega), joinPairs, alone]
      rfl

theorem length_le_escaped (text : PythonText) : text.length ≤ (text.flatMap escape).length := by
  induction text with
  | nil => simp
  | cons point text ih =>
      obtain ⟨first, more, shape, -⟩ := escape_head point
      rw [List.flatMap_cons, List.length_append, shape, List.length_cons, List.length_cons]
      omega

/-- A text in quotes is read back. -/
theorem stringBody?_quote (text : PythonText) :
    stringBody? (ofChars (text.flatMap escape) ++ .scalar '"' :: rest).length
      (ofChars (text.flatMap escape) ++ .scalar '"' :: rest) = some (joinPairs text, rest) := by
  apply stringBody?_escaped
  have grows := length_le_escaped text
  rw [List.length_append, List.length_cons, length_ofChars]
  omega

end Quotes

/-! ## Whole values -/

mutual

/-- The value with the pairs of its texts joined. -/
def joined : Json PythonText → Json PythonText
  | .null => .null
  | .bool value => .bool value
  | .number text => .number text
  | .string value => .string (joinPairs value)
  | .array items => .array (joinedItems items)
  | .object fields => .object (joinedFields fields)

def joinedItems : List (Json PythonText) → List (Json PythonText)
  | [] => []
  | item :: items => item.joined :: joinedItems items

def joinedFields : List (PythonText × Json PythonText) → List (PythonText × Json PythonText)
  | [] => []
  | (name, item) :: fields => (joinPairs name, item.joined) :: joinedFields fields

end

theorem map_fst_joinedFields (fields : List (PythonText × Json PythonText)) :
    (joinedFields fields).map Prod.fst = fields.map fun field => joinPairs field.1 := by
  induction fields with
  | nil => rfl
  | cons field fields ih => rw [joinedFields, List.map_cons, List.map_cons, ih]

/-- A value of constants, texts, arrays, and objects whose names stay different. -/
inductive Writable : Json PythonText → Prop where
  | null : Writable .null
  | bool (value : Bool) : Writable (.bool value)
  | string (value : PythonText) : Writable (.string value)
  | array {items : List (Json PythonText)} (writable : ∀ item ∈ items, Writable item) :
      Writable (.array items)
  | object {fields : List (PythonText × Json PythonText)}
      (names : (fields.map fun field => joinPairs field.1).Nodup)
      (writable : ∀ field ∈ fields, Writable field.2) : Writable (.object fields)

section Values

variable {rest : PythonText}

theorem skipSpace_cons {character : Char} (notSpace : isSpace (.scalar character) = false) :
    skipSpace (.scalar character :: rest) = .scalar character :: rest :=
  List.dropWhile_cons_of_neg (by simp [notSpace])

/-- The text of a value begins with no space and ends no array or object. -/
theorem Writable.head {value : Json PythonText} (writable : value.Writable) :
    ∃ first more, dumps value = first :: more ∧ isSpace (.scalar first) = false ∧ first ≠ ']' ∧
      first ≠ '\x7d' := by
  cases writable with
  | null => exact ⟨'n', _, rfl, by decide⟩
  | bool value =>
      cases value with
      | true => exact ⟨'t', _, rfl, by decide⟩
      | false => exact ⟨'f', _, rfl, by decide⟩
  | string value => exact ⟨'"', _, rfl, by decide⟩
  | @array items writable =>
      cases items with
      | nil => exact ⟨'[', _, rfl, by decide⟩
      | cons item items => exact ⟨'[', _, rfl, by decide⟩
  | @object fields names writable =>
      cases fields with
      | nil => exact ⟨'\x7b', _, rfl, by decide⟩
      | cons field fields => exact ⟨'\x7b', _, rfl, by decide⟩

theorem Writable.skipSpace_dumps {value : Json PythonText} (writable : value.Writable) :
    skipSpace (ofChars (dumps value) ++ rest) = ofChars (dumps value) ++ rest := by
  obtain ⟨first, more, shape, notSpace, -⟩ := writable.head
  rw [shape, ofChars_cons, List.cons_append, skipSpace_cons notSpace]

/-- The reader gives back a value with its pairs joined, with enough fuel for its text, and what
stands after it. -/
def ReadsBack (value : Json PythonText) : Prop :=
  ∀ fuel rest, (dumps value).length ≤ fuel →
    value? fuel (ofChars (dumps value) ++ rest) = some (value.joined, rest)

theorem elements?_dumpsItems {item : Json PythonText} {items : List (Json PythonText)}
    (reads : ∀ other ∈ item :: items, ReadsBack other)
    (writable : ∀ other ∈ item :: items, other.Writable) {fuel : ℕ}
    (enough : (dumps item ++ dumpsItems items).length ≤ fuel) :
    elements? fuel (ofChars (dumps item) ++ (ofChars (dumpsItems items) ++ rest)) =
      some (joinedItems (item :: items), rest) := by
  induction items generalizing item fuel with
  | nil =>
      simp only [dumpsItems, List.length_append, List.length_singleton] at enough
      obtain ⟨fuel, rfl⟩ := Nat.exists_eq_add_one_of_ne_zero (by omega : fuel ≠ 0)
      have read := reads item List.mem_cons_self fuel (.scalar ']' :: rest) (by omega)
      have close : skipSpace (.scalar ']' :: rest) = .scalar ']' :: rest :=
        skipSpace_cons (by decide)
      simp only [elements?, dumpsItems, ofChars_cons, ofChars_nil, List.singleton_append, read,
        close, joinedItems]
  | cons next items ih =>
      simp only [dumpsItems, List.length_append, List.length_cons] at enough
      obtain ⟨fuel, rfl⟩ := Nat.exists_eq_add_one_of_ne_zero (by omega : fuel ≠ 0)
      have read := reads item List.mem_cons_self fuel
        (.scalar ',' :: (ofChars (dumps next) ++ (ofChars (dumpsItems items) ++ rest))) (by omega)
      have comma (after : PythonText) : skipSpace (.scalar ',' :: after) = .scalar ',' :: after :=
        skipSpace_cons (by decide)
      have goesOn := ih (fun other member => reads other (List.mem_cons_of_mem _ member))
        (fun other member => writable other (List.mem_cons_of_mem _ member))
        (by simp only [List.length_append]; omega : _ ≤ fuel)
      have start (after : PythonText) :
          skipSpace (ofChars (dumps next) ++ after) = ofChars (dumps next) ++ after :=
        (writable next (by simp)).skipSpace_dumps
      simp only [elements?, dumpsItems, ofChars_cons, ofChars_append, List.cons_append,
        List.append_assoc, read, comma, start, goesOn, Option.map_some, joinedItems]

theorem members?_dumpsFields {name : PythonText} {item : Json PythonText}
    {fields : List (PythonText × Json PythonText)}
    (reads : ∀ other ∈ (name, item) :: fields, ReadsBack other.2)
    (writable : ∀ other ∈ (name, item) :: fields, other.2.Writable) {fuel : ℕ}
    (enough : (dumps item ++ dumpsFields fields).length ≤ fuel) :
    members? fuel (ofChars (quote name) ++ .scalar ':' :: (ofChars (dumps item) ++
      (ofChars (dumpsFields fields) ++ rest))) =
      some (joinedFields ((name, item) :: fields), rest) := by
  have colon (after : PythonText) : skipSpace (.scalar ':' :: after) = .scalar ':' :: after :=
    skipSpace_cons (by decide)
  have start (after : PythonText) :
      skipSpace (ofChars (dumps item) ++ after) = ofChars (dumps item) ++ after :=
    (writable (name, item) List.mem_cons_self).skipSpace_dumps
  induction fields generalizing name item fuel with
  | nil =>
      simp only [dumpsFields, List.length_append, List.length_singleton] at enough
      obtain ⟨fuel, rfl⟩ := Nat.exists_eq_add_one_of_ne_zero (by omega : fuel ≠ 0)
      have read := reads (name, item) List.mem_cons_self fuel (.scalar '\x7d' :: rest)
        (by simp only; omega)
      have close : skipSpace (.scalar '\x7d' :: rest) = .scalar '\x7d' :: rest :=
        skipSpace_cons (by decide)
      simp only [members?, quote, dumpsFields, ofChars_cons, ofChars_nil, ofChars_append,
        List.cons_append, List.append_assoc, List.nil_append, stringBody?_quote, colon, start, read,
        close, joinedFields]
  | cons next fields ih =>
      simp only [dumpsFields, List.length_append, List.length_cons] at enough
      obtain ⟨fuel, rfl⟩ := Nat.exists_eq_add_one_of_ne_zero (by omega : fuel ≠ 0)
      have read := reads (name, item) List.mem_cons_self fuel
        (.scalar ',' :: (ofChars (quote next.1) ++ .scalar ':' :: (ofChars (dumps next.2) ++
          (ofChars (dumpsFields fields) ++ rest)))) (by simp only; omega)
      have goesOn := ih (fun other member => reads other (List.mem_cons_of_mem _ member))
        (fun other member => writable other (List.mem_cons_of_mem _ member))
        (by simp only [List.length_append]; omega : _ ≤ fuel)
        fun after => (writable next (by simp)).skipSpace_dumps
      have comma (after : PythonText) : skipSpace (.scalar ',' :: after) = .scalar ',' :: after :=
        skipSpace_cons (by decide)
      have quoted (after : PythonText) : skipSpace (.scalar '"' :: after) = .scalar '"' :: after :=
        skipSpace_cons (by decide)
      simp only [quote, ofChars_cons, ofChars_append, ofChars_nil, List.cons_append,
        List.append_assoc, List.nil_append] at read goesOn
      simp only [members?, quote, dumpsFields, ofChars_cons, ofChars_nil, ofChars_append,
        List.cons_append, List.append_assoc, List.nil_append, stringBody?_quote, colon, start, read,
        comma, quoted, goesOn, Option.map_some, joinedFields]

theorem dictOf_eq {fields : List (PythonText × Json PythonText)}
    (names : (fields.map Prod.fst).Nodup) : dictOf fields = fields := by
  have grows (pairs before : List (PythonText × Json PythonText))
      (distinct : ((before ++ pairs).map Prod.fst).Nodup) :
      pairs.foldl (fun fields pair =>
        if pair.1 ∈ fields.map Prod.fst then
          fields.map fun field => if field.1 = pair.1 then pair else field
        else fields ++ [pair]) before = before ++ pairs := by
    induction pairs generalizing before with
    | nil => simp
    | cons pair pairs ih =>
        have fresh : pair.1 ∉ before.map Prod.fst := by
          intro member
          simp only [List.map_append, List.map_cons, List.nodup_append] at distinct
          exact distinct.2.2 _ member _ List.mem_cons_self rfl
        rw [List.foldl_cons, if_neg fresh, ih]
        · simp
        · simpa using distinct
  exact grows fields [] names

theorem exists_fuel {text : List Char} {first : Char} {fuel : ℕ}
    (enough : (first :: text).length ≤ fuel) : ∃ less, fuel = less + 1 :=
  Nat.exists_eq_add_one_of_ne_zero (Nat.ne_of_gt (Nat.lt_of_lt_of_le (Nat.succ_pos _) enough))

theorem Writable.readsBack {value : Json PythonText} (writable : value.Writable) :
    ReadsBack value := by
  induction writable with
  | null =>
      intro fuel rest enough
      obtain ⟨fuel, rfl⟩ := exists_fuel enough
      rfl
  | bool value =>
      intro fuel rest enough
      cases value with
      | true =>
          obtain ⟨fuel, rfl⟩ := exists_fuel enough
          rfl
      | false =>
          obtain ⟨fuel, rfl⟩ := exists_fuel enough
          rfl
  | string value =>
      intro fuel rest enough
      obtain ⟨fuel, rfl⟩ := exists_fuel enough
      simp only [dumps, quote, ofChars_cons, ofChars_append, ofChars_nil, List.cons_append,
        List.append_assoc, List.nil_append, value?, stringBody?_quote, Option.map_some, joined]
  | @array items writable ih =>
      intro fuel rest enough
      cases items with
      | nil =>
          obtain ⟨fuel, rfl⟩ := exists_fuel enough
          rfl
      | cons item items =>
          simp only [dumps, List.length_cons] at enough
          obtain ⟨fuel, rfl⟩ := Nat.exists_eq_add_one_of_ne_zero (by omega : fuel ≠ 0)
          have found := @elements?_dumpsItems rest item items ih writable fuel (by omega)
          obtain ⟨first, more, shape, notSpace, notEnd, -⟩ :=
            (writable item List.mem_cons_self).head
          simp only [dumps, shape, ofChars_cons, ofChars_append, List.cons_append,
            List.append_assoc] at found ⊢
          rw [value?, skipSpace_cons notSpace]
          split
          · rename_i same
            cases same
            exact absurd rfl notEnd
          · rw [found, Option.map_some, joined]
  | @object fields names writable ih =>
      intro fuel rest enough
      cases fields with
      | nil =>
          obtain ⟨fuel, rfl⟩ := exists_fuel enough
          rfl
      | cons field fields =>
          simp only [dumps, List.length_cons, List.length_append] at enough
          obtain ⟨fuel, rfl⟩ := Nat.exists_eq_add_one_of_ne_zero (by omega : fuel ≠ 0)
          have found := @members?_dumpsFields rest field.1 field.2 fields ih writable fuel
            (by simp only [List.length_append]; omega)
          have quoted (after : PythonText) :
              skipSpace (.scalar '"' :: after) = .scalar '"' :: after :=
            skipSpace_cons (by decide)
          simp only [quote, dumps, ofChars_cons, ofChars_append, ofChars_nil, List.cons_append,
            List.append_assoc, List.nil_append] at found ⊢
          rw [value?, quoted]
          split
          · rename_i same
            cases same
          · have distinct : ((joinedFields (field :: fields)).map Prod.fst).Nodup := by
              rw [map_fst_joinedFields]
              exact names
            rw [found, Option.map_some, dictOf_eq distinct, joined]

/-- `json.loads(json.dumps(value, ...))`. -/
theorem loads_dumps {value : Json PythonText} (writable : value.Writable) :
    loads (ofChars (dumps value)) = some value.joined := by
  have read := writable.readsBack ((ofChars (dumps value)).length + 1) [] (by
    rw [length_ofChars]
    omega)
  have start : skipSpace (ofChars (dumps value) ++ []) = ofChars (dumps value) ++ [] :=
    writable.skipSpace_dumps
  rw [List.append_nil] at read start
  simp only [loads, start, read]
  rfl

/-! ## Objects with plain names -/

/-- Fields under names without halves. -/
def named (fields : List (String × Json PythonText)) : List (PythonText × Json PythonText) :=
  fields.map fun field => (ofString field.1, field.2)

theorem readField?_named {α : Type} (read : Json PythonText → Option α)
    (fields : List (String × Json PythonText)) (name : String) :
    readField? read (named fields) name =
      ((fields.find? fun field => field.1 = name).map Prod.snd).bind read := by
  have found : (named fields).find? (fun field => field.1 = ofString name) =
      (fields.find? fun field => field.1 = name).map fun field => (ofString field.1, field.2) := by
    simp only [named, List.find?_map, Function.comp_def, ofString_inj]
  rw [readField?, field?, found, Option.map_map]
  rfl

theorem exactObject?_named {fields : List (String × Json PythonText)} {expected : List String}
    (same : fields.map Prod.fst = expected) :
    exactObject? (expected.map ofString) (.object (named fields)) = some (named fields) := by
  apply exactObject?_object
  rw [named, List.map_map, ← same, List.map_map]
  rfl

theorem joined_named (fields : List (String × Json PythonText)) :
    joined (.object (named fields)) =
      .object (named (fields.map fun field => (field.1, field.2.joined))) := by
  rw [joined]
  congr 1
  induction fields with
  | nil => rfl
  | cons field fields ih =>
      simp only [named, List.map_cons, joinedFields, joinPairs_ofString] at ih ⊢
      rw [ih]

theorem Writable.named {fields : List (String × Json PythonText)}
    (names : (fields.map Prod.fst).Nodup) (writable : ∀ field ∈ fields, field.2.Writable) :
    Writable (.object (named fields)) := by
  refine .object ?_ fun field member => ?_
  · have plain : (Json.named fields).map (fun field => joinPairs field.1) =
        (fields.map Prod.fst).map ofString := by
      simp [Json.named, Function.comp_def]
    rw [plain]
    exact List.Nodup.map ofString_injective names
  · obtain ⟨inner, innerMem, rfl⟩ := List.mem_map.mp member
    exact writable inner innerMem

end Values

/-! ## Written bytes -/

/-- Characters that stand for themselves in every spelling of ASCII. -/
def IsPlain (character : Char) : Prop := 32 ≤ character.toNat ∧ character.toNat ≤ 126

instance (character : Char) : Decidable (IsPlain character) := inferInstanceAs (Decidable (_ ∧ _))

theorem isPlain_of_all {text : List Char} (all : text.all fun other => decide (IsPlain other)) :
    ∀ character ∈ text, IsPlain character :=
  fun character member => of_decide_eq_true (List.all_eq_true.mp all character member)

theorem isPlain_digitChar : ∀ digit : Fin 16, IsPlain (Uuid.digitChar digit) := by decide

theorem isPlain_unicodeEscape (code : ℕ) : ∀ character ∈ unicodeEscape code, IsPlain character := by
  intro character member
  simp only [unicodeEscape, hexText, List.mem_cons, List.mem_map] at member
  rcases member with rfl | rfl | ⟨digit, -, rfl⟩
  · decide
  · decide
  · exact isPlain_digitChar digit

theorem isPlain_escapeChar (character : Char) : ∀ other ∈ escapeChar character, IsPlain other := by
  rw [escapeChar]
  cases found : shortEscapes.lookup character with
  | some letter =>
      have letters : ∀ escape ∈ shortEscapes, IsPlain escape.2 := by decide
      have plain := letters _ (mem_shortEscapes found)
      have slash : IsPlain '\\' := by decide
      simpa using ⟨slash, plain⟩
  | none =>
      simp only
      split_ifs with plain basic
      · intro other member
        cases List.mem_singleton.mp member
        exact plain
      · exact isPlain_unicodeEscape _
      · intro other member
        rcases List.mem_append.mp member with high | low
        · exact isPlain_unicodeEscape _ other high
        · exact isPlain_unicodeEscape _ other low

theorem isPlain_escape (point : CodePoint) : ∀ other ∈ escape point, IsPlain other := by
  cases point with
  | scalar character => exact isPlain_escapeChar character
  | surrogate half => exact isPlain_unicodeEscape _

theorem isPlain_quote (text : PythonText) : ∀ character ∈ quote text, IsPlain character := by
  have mark : IsPlain '"' := by decide
  intro character member
  simp only [quote, List.mem_cons, List.mem_append, List.mem_flatMap, List.not_mem_nil,
    or_false] at member
  rcases member with rfl | ⟨escaped, -, member⟩ | rfl
  · exact mark
  · exact isPlain_escape escaped character member
  · exact mark

/-- Every character of the text of a value. -/
def PlainText (value : Json PythonText) : Prop := ∀ character ∈ dumps value, IsPlain character

theorem isPlain_dumpsItems {items : List (Json PythonText)} (plain : ∀ item ∈ items, item.PlainText) :
    ∀ character ∈ dumpsItems items, IsPlain character := by
  induction items with
  | nil => exact isPlain_of_all (by decide)
  | cons item items ih =>
      have comma : IsPlain ',' := by decide
      have first := plain item List.mem_cons_self
      have rest := ih fun other member => plain other (List.mem_cons_of_mem _ member)
      intro character member
      simp only [dumpsItems, List.mem_cons, List.mem_append] at member
      rcases member with rfl | inItem | inItems
      · exact comma
      · exact first character inItem
      · exact rest character inItems

theorem isPlain_dumpsFields {fields : List (PythonText × Json PythonText)}
    (plain : ∀ field ∈ fields, field.2.PlainText) :
    ∀ character ∈ dumpsFields fields, IsPlain character := by
  induction fields with
  | nil => exact isPlain_of_all (by decide)
  | cons field fields ih =>
      have comma : IsPlain ',' := by decide
      have colon : IsPlain ':' := by decide
      have first := plain field List.mem_cons_self
      have rest := ih fun other member => plain other (List.mem_cons_of_mem _ member)
      intro character member
      simp only [dumpsFields, List.mem_cons, List.mem_append] at member
      rcases member with rfl | inName | rfl | inItem | inFields
      · exact comma
      · exact isPlain_quote _ character inName
      · exact colon
      · exact first character inItem
      · exact rest character inFields

theorem Writable.plainText {value : Json PythonText} (writable : value.Writable) : value.PlainText := by
  induction writable with
  | null => exact isPlain_of_all (by decide)
  | bool value => cases value <;> exact isPlain_of_all (by decide)
  | string value => exact isPlain_quote _
  | @array items writable ih =>
      have opened : IsPlain '[' := by decide
      intro character member
      cases items with
      | nil =>
          simp only [dumps] at member
          exact isPlain_of_all (by decide) character member
      | cons item items =>
          simp only [dumps, List.mem_cons, List.mem_append] at member
          rcases member with rfl | inItem | inItems
          · exact opened
          · exact ih item List.mem_cons_self character inItem
          · exact isPlain_dumpsItems (fun other member => ih other (List.mem_cons_of_mem _ member))
              character inItems
  | @object fields names writable ih =>
      have opened : IsPlain '\x7b' := by decide
      have colon : IsPlain ':' := by decide
      intro character member
      cases fields with
      | nil =>
          simp only [dumps] at member
          exact isPlain_of_all (by decide) character member
      | cons field fields =>
          simp only [dumps, List.mem_cons, List.mem_append] at member
          rcases member with rfl | inName | rfl | inItem | inFields
          · exact opened
          · exact isPlain_quote _ character inName
          · exact colon
          · exact ih field List.mem_cons_self character inItem
          · exact isPlain_dumpsFields
              (fun other member => ih other (List.mem_cons_of_mem _ member)) character inFields

theorem encode_cons (character : Char) (text : List Char) :
    encode (character :: text) = String.utf8EncodeChar character ++ encode text := by
  simp only [encode, String.toUTF8_eq_toByteArray, String.toByteArray_ofList]
  rw [List.utf8Encode_cons, ByteArray.data_append, Array.toList_append, List.utf8Encode_singleton,
    List.data_toByteArray]

/-- Plain characters have one byte each. -/
theorem encode_plain {text : List Char} (plain : ∀ character ∈ text, IsPlain character) :
    encode text = text.map fun character => character.val.toUInt8 := by
  induction text with
  | nil => rfl
  | cons character text ih =>
      have small : character.val.toNat ≤ 126 := (plain character List.mem_cons_self).2
      have size : character.utf8Size = 1 := by
        apply Char.utf8Size_eq_one_iff.mpr
        apply UInt32.le_iff_toNat_le.mpr
        exact Nat.le_trans small (by decide)
      rw [encode_cons, ih fun other member => plain other (List.mem_cons_of_mem _ member),
        String.utf8EncodeChar_eq_singleton size]
      rfl

theorem not_isPrefixOf {mark : UInt8} {marks bytes : List UInt8} (high : 126 < mark.toNat)
    (low : ∀ byte ∈ bytes, 32 ≤ byte.toNat ∧ byte.toNat ≤ 126) :
    (mark :: marks).isPrefixOf bytes = false := by
  cases bytes with
  | nil => rfl
  | cons byte bytes =>
      have other : mark ≠ byte := by
        rintro rfl
        have := low mark List.mem_cons_self
        omega
      simp [List.isPrefixOf, other]

theorem loadsBytes_encode {value : Json PythonText} (writable : value.Writable)
    (wide : List UInt8 → Option PythonText) :
    loadsBytes wide (encode (dumps value)) = some value.joined := by
  have plain := writable.plainText
  have bytes : ∀ byte ∈ encode (dumps value), 32 ≤ byte.toNat ∧ byte.toNat ≤ 126 := by
    rw [encode_plain plain]
    intro byte member
    obtain ⟨character, inText, rfl⟩ := List.mem_map.mp member
    have found : 32 ≤ character.val.toNat ∧ character.val.toNat ≤ 126 := plain character inText
    rw [UInt32.toNat_toUInt8]
    omega
  have zero : (List.take 2 (encode (dumps value))).contains 0 = false := by
    rw [List.contains_eq_mem, decide_eq_false_iff_not]
    intro member
    have := bytes 0 (List.mem_of_mem_take member)
    exact absurd this.1 (by decide)
  have narrow : isWide (encode (dumps value)) = false := by
    rw [isWide, not_isPrefixOf (by decide) bytes, not_isPrefixOf (by decide) bytes, zero,
      Bool.and_false]
    rfl
  have noMark : [0xef, 0xbb, 0xbf].isPrefixOf (encode (dumps value)) = false :=
    not_isPrefixOf (by decide) bytes
  have ascii : ∀ character ∈ dumps value, character.toNat < 0x80 := by
    intro character member
    have := (plain character member).2
    omega
  rw [loadsBytes, narrow, if_neg Bool.false_ne_true, noMark]
  simp only [Bool.false_eq_true, if_false, encode_plain plain, utf8Decode?_ascii ascii,
    Option.bind_some]
  exact loads_dumps writable

end Json
