import CardVault.Lib.Text
import Mathlib.Data.List.TakeWhile

/-!
# JSON documents

JSON documents, their compact text, and a parser of JSON text.

Main results:

* `parse_print`: the parser reads back what was printed.
-/

/-- A JSON document. An object keeps its members as they come, repeated names
    included. -/
inductive Json where
  | null
  | bool (value : Bool)
  | number (text : String)
  | string (value : String)
  | array (elements : List Json)
  | object (members : List (String × Json))

namespace Json

/-! ## Reading documents -/

/-- What a derived `Deserialize` does with one field: a repeated field is an error, a
    missing one is `default`, or an error if there is none. -/
def field {α : Type} (decode : Json → Option α) (default : Option α) (name : String)
    (members : List (String × Json)) : Option α :=
  match members.filter fun entry => entry.1 = name with
  | [] => default
  | [(_, value)] => decode value
  | _ :: _ :: _ => none

/-- `bool::deserialize`. -/
def toBool : Json → Option Bool
  | .bool value => some value
  | _ => none

/-- `String::deserialize`. -/
def toText : Json → Option String
  | .string value => some value
  | _ => none

/-- `Option::<T>::deserialize`. -/
def toOption {α : Type} (decode : Json → Option α) : Json → Option (Option α)
  | .null => some none
  | value => (decode value).map some

/-- `Option::<T>::serialize`. -/
def ofOption {α : Type} (encode : α → Json) : Option α → Json
  | none => .null
  | some value => encode value

/-- `Vec::<T>::deserialize`. -/
def toVec {α : Type} (decode : Json → Option α) : Json → Option (List α)
  | .array elements => elements.mapM decode
  | _ => none

/-- `<(T, U)>::deserialize`: an array of exactly two. -/
def toPair {α β : Type} (decodeFst : Json → Option α) (decodeSnd : Json → Option β) :
    Json → Option (α × β)
  | .array [first, second] => do
    return (← decodeFst first, ← decodeSnd second)
  | _ => none

/-- Elements that are read back one by one. -/
theorem mapM_map {α β : Type} {f : α → β} {g : β → Option α} (h : ∀ a, g (f a) = some a)
    (values : List α) : (values.map f).mapM g = some values := by
  induction values with
  | nil => rfl
  | cons value values ih =>
    rw [List.map_cons, List.mapM_cons, h, ih]
    rfl

/-- A list reads back if its elements do. -/
theorem toVec_map {α : Type} {encode : α → Json} {decode : Json → Option α}
    (h : ∀ value, decode (encode value) = some value) (values : List α) :
    toVec decode (.array (values.map encode)) = some values := mapM_map h values

/-- An element that is no `null` stays apart from a missing one. -/
theorem toOption_ofOption {α : Type} {encode : α → Json} {decode : Json → Option α}
    (hnull : ∀ value, encode value ≠ .null) (h : ∀ value, decode (encode value) = some value)
    (value : Option α) : (ofOption encode value).toOption decode = some value := by
  cases value with
  | none => rfl
  | some value =>
    rw [ofOption, toOption, h, Option.map_some]
    exact hnull value

/-! ## Printing -/

/-- The quotation mark. -/
def quote : Char := Char.ofNat 0x22

/-- The characters with a short escape. -/
def escapes : List (Char × Char) :=
  [(quote, quote), ('\\', '\\'), (Char.ofNat 0x8, 'b'), (Char.ofNat 0xC, 'f'),
    ('\n', 'n'), ('\r', 'r'), ('\t', 't')]

/-- A character of a string, escaped where it has to be. -/
def escapeChar (c : Char) : List Char :=
  match escapes.lookup c with
  | some e => ['\\', e]
  | none =>
    if c.toNat < 0x20 then
      ['\\', 'u', '0', '0', Text.hexDigit (c.toNat / 16), Text.hexDigit (c.toNat % 16)]
    else [c]

/-- A string in quotation marks. -/
def printString (text : String) : List Char :=
  quote :: (text.toList.flatMap escapeChar ++ [quote])

mutual

/-- The compact text of a document. -/
def printChars : Json → List Char
  | .null => ['n', 'u', 'l', 'l']
  | .bool true => ['t', 'r', 'u', 'e']
  | .bool false => ['f', 'a', 'l', 's', 'e']
  | .number text => text.toList
  | .string value => printString value
  | .array [] => ['[', ']']
  | .array (element :: elements) => '[' :: (element.printChars ++ printElements elements)
  | .object [] => ['\x7b', '\x7d']
  | .object ((name, value) :: members) =>
    '\x7b' :: (printString name ++ ':' :: (value.printChars ++ printMembers members))

/-- The elements after the first. -/
def printElements : List Json → List Char
  | [] => [']']
  | element :: elements => ',' :: (element.printChars ++ printElements elements)

/-- The members after the first. -/
def printMembers : List (String × Json) → List Char
  | [] => ['\x7d']
  | (name, value) :: members =>
    ',' :: (printString name ++ ':' :: (value.printChars ++ printMembers members))

end

/-- The compact text of a document. -/
def print (json : Json) : String := String.ofList json.printChars

/-! ## Parsing -/

/-- White space between tokens. -/
def isSpace (c : Char) : Bool := c = ' ' ∨ c = '\t' ∨ c = '\n' ∨ c = '\r'

/-- The text from its first token on. -/
def skipSpace (text : List Char) : List Char := text.dropWhile isSpace

/-- The value of a hexadecimal digit. -/
def hexDigitValue (c : Char) : Option ℕ :=
  (List.range 16).find? fun n => Text.hexDigit n = c.toLower

/-- Four hexadecimal digits. -/
def parseHex : List Char → Option (ℕ × List Char)
  | a :: b :: c :: d :: rest =>
    match hexDigitValue a, hexDigitValue b, hexDigitValue c, hexDigitValue d with
    | some a, some b, some c, some d => some (((a * 16 + b) * 16 + c) * 16 + d, rest)
    | _, _, _, _ => none
  | _ => none

/-- The second of two surrogates. -/
def parseLowSurrogate (high : ℕ) : List Char → Option (Char × List Char)
  | '\\' :: 'u' :: rest =>
    match parseHex rest with
    | some (low, rest) =>
      if 0xDC00 ≤ low ∧ low < 0xE000 then
        some (Char.ofNat (0x10000 + (high - 0xD800) * 0x400 + (low - 0xDC00)), rest)
      else none
    | none => none
  | _ => none

/-- What follows a backslash. -/
def parseEscape : List Char → Option (Char × List Char)
  | [] => none
  | '/' :: rest => some ('/', rest)
  | 'u' :: rest =>
    match parseHex rest with
    | some (code, rest) =>
      if 0xD800 ≤ code ∧ code < 0xDC00 then parseLowSurrogate code rest
      else if 0xDC00 ≤ code ∧ code < 0xE000 then none
      else some (Char.ofNat code, rest)
    | none => none
  | e :: rest =>
    match escapes.find? fun entry => entry.2 = e with
    | some (c, _) => some (c, rest)
    | none => none

/-- One character of a string. -/
def parseChar : List Char → Option (Char × List Char)
  | [] => none
  | c :: rest =>
    if c = '\\' then parseEscape rest
    else if c = quote ∨ c.toNat < 0x20 then none
    else some (c, rest)

/-- The characters of a string up to the closing quotation mark. -/
def parseChars : ℕ → List Char → Option (List Char × List Char)
  | 0, _ => none
  | _ + 1, [] => none
  | fuel + 1, c :: rest =>
    if c = quote then some ([], rest)
    else
      match parseChar (c :: rest) with
      | none => none
      | some (x, rest) =>
        match parseChars fuel rest with
        | none => none
        | some (text, rest) => some (x :: text, rest)

/-- A string after its opening quotation mark. -/
def parseString (text : List Char) : Option (String × List Char) :=
  match parseChars (text.length + 1) text with
  | none => none
  | some (chars, rest) => some (String.ofList chars, rest)

/-- The characters that numbers are made of. -/
def isNumberChar (c : Char) : Bool :=
  c.isDigit ∨ c = '-' ∨ c = '+' ∨ c = '.' ∨ c = 'e' ∨ c = 'E'

/-- At least one digit, and nothing else. -/
def areDigits (text : List Char) : Bool := text ≠ [] ∧ text.all Char.isDigit

/-- An exponent, which may be missing. -/
def isExponent : List Char → Bool
  | [] => true
  | e :: '-' :: digits => (e = 'e' ∨ e = 'E') ∧ areDigits digits
  | e :: '+' :: digits => (e = 'e' ∨ e = 'E') ∧ areDigits digits
  | e :: digits => (e = 'e' ∨ e = 'E') ∧ areDigits digits

/-- A fraction, which may be missing, and an exponent. -/
def isFraction : List Char → Bool
  | '.' :: rest =>
    rest.takeWhile Char.isDigit ≠ [] ∧ isExponent (rest.dropWhile Char.isDigit)
  | rest => isExponent rest

/-- A number without its sign. -/
def isUnsigned : List Char → Bool
  | [] => false
  | '0' :: rest => isFraction rest
  | c :: rest => c.isDigit ∧ isFraction (rest.dropWhile Char.isDigit)

/-- The text of a number. -/
def isNumber : List Char → Bool
  | '-' :: rest => isUnsigned rest
  | text => isUnsigned text

/-- A number. -/
def parseNumber (text : List Char) : Option (Json × List Char) :=
  if isNumber (text.takeWhile isNumberChar) then
    some (.number (String.ofList (text.takeWhile isNumberChar)), text.dropWhile isNumberChar)
  else none

/-- A keyword that stands for a document. -/
def parseKeyword (keyword : List Char) (json : Json) (text : List Char) :
    Option (Json × List Char) :=
  if keyword.isPrefixOf text then some (json, text.drop keyword.length) else none

/-- The name of a member with its colon, in front of which white space has been skipped. -/
def parseName : List Char → Option (String × List Char)
  | [] => none
  | c :: rest =>
    if c = quote then
      match parseString rest with
      | none => none
      | some (name, rest) =>
        match skipSpace rest with
        | [] => none
        | colon :: rest => if colon = ':' then some (name, rest) else none
    else none

mutual

/-- A document in front of other text. -/
def parseValue : ℕ → List Char → Option (Json × List Char)
  | 0, _ => none
  | fuel + 1, text =>
    match skipSpace text with
    | [] => none
    | c :: rest =>
      if c = quote then (parseString rest).map fun (value, rest) => (.string value, rest)
      else if c = '[' then
        match skipSpace rest with
        | [] => none
        | first :: rest =>
          if first = ']' then some (.array [], rest)
          else
            match parseValue fuel (first :: rest) with
            | none => none
            | some (element, rest) =>
              match parseElements fuel rest with
              | none => none
              | some (elements, rest) => some (.array (element :: elements), rest)
      else if c = '\x7b' then
        match skipSpace rest with
        | [] => none
        | first :: rest =>
          if first = '\x7d' then some (.object [], rest)
          else
            match parseName (first :: rest) with
            | none => none
            | some (name, rest) =>
              match parseValue fuel rest with
              | none => none
              | some (value, rest) =>
                match parseMembers fuel rest with
                | none => none
                | some (members, rest) => some (.object ((name, value) :: members), rest)
      else if c = 'n' then parseKeyword ['n', 'u', 'l', 'l'] .null (c :: rest)
      else if c = 't' then parseKeyword ['t', 'r', 'u', 'e'] (.bool true) (c :: rest)
      else if c = 'f' then parseKeyword ['f', 'a', 'l', 's', 'e'] (.bool false) (c :: rest)
      else parseNumber (c :: rest)

/-- The elements after the first, with the closing bracket. -/
def parseElements : ℕ → List Char → Option (List Json × List Char)
  | 0, _ => none
  | fuel + 1, text =>
    match skipSpace text with
    | [] => none
    | c :: rest =>
      if c = ']' then some ([], rest)
      else if c = ',' then
        match parseValue fuel rest with
        | none => none
        | some (element, rest) =>
          match parseElements fuel rest with
          | none => none
          | some (elements, rest) => some (element :: elements, rest)
      else none

/-- The members after the first, with the closing brace. -/
def parseMembers : ℕ → List Char → Option (List (String × Json) × List Char)
  | 0, _ => none
  | fuel + 1, text =>
    match skipSpace text with
    | [] => none
    | c :: rest =>
      if c = '\x7d' then some ([], rest)
      else if c = ',' then
        match parseName (skipSpace rest) with
        | none => none
        | some (name, rest) =>
          match parseValue fuel rest with
          | none => none
          | some (value, rest) =>
            match parseMembers fuel rest with
            | none => none
            | some (members, rest) => some ((name, value) :: members, rest)
      else none

end

/-- The document that a text is, up to white space around it. -/
def parse (text : String) : Option Json :=
  match parseValue (text.length + 1) text.toList with
  | some (json, rest) => if skipSpace rest = [] then some json else none
  | none => none

/-! ## Strings read back -/

theorem hexDigitValue_hexDigit {n : ℕ} (h : n < 16) : hexDigitValue (Text.hexDigit n) = some n := by
  have hall : ∀ m < 16, hexDigitValue (Text.hexDigit m) = some m := by decide
  exact hall n h

/-- A short escape is the first of its kind, and not that of a code. -/
theorem find?_of_mem_escapes {c e : Char} (h : (c, e) ∈ escapes) :
    escapes.find? (fun entry => entry.2 = e) = some (c, e) ∧ e ≠ 'u' ∧ e ≠ '/' := by
  have hall : ∀ entry ∈ escapes, escapes.find? (fun other => other.2 = entry.2) = some entry ∧
      entry.2 ≠ 'u' ∧ entry.2 ≠ '/' := by decide
  exact hall (c, e) h

theorem parseEscape_of_mem_escapes {c e : Char} (h : (c, e) ∈ escapes) (rest : List Char) :
    parseEscape (e :: rest) = some (c, rest) := by
  obtain ⟨hfind, hu, hslash⟩ := find?_of_mem_escapes h
  unfold parseEscape
  split
  · rename_i hnil
    cases hnil
  · rename_i hcons
    exact absurd (List.cons.inj hcons).1 hslash
  · rename_i hcons
    exact absurd (List.cons.inj hcons).1 hu
  · rename_i hcons
    obtain ⟨rfl, rfl⟩ := List.cons.inj hcons
    rw [hfind]

/-- A control character is read back from its code. -/
theorem parseEscape_code {c : Char} (h : c.toNat < 0x20) (rest : List Char) :
    parseEscape ('u' :: '0' :: '0' :: Text.hexDigit (c.toNat / 16) ::
      Text.hexDigit (c.toNat % 16) :: rest) = some (c, rest) := by
  have hzero : hexDigitValue '0' = some 0 := by decide
  have hhigh := hexDigitValue_hexDigit (n := c.toNat / 16) (by omega)
  have hlow := hexDigitValue_hexDigit (n := c.toNat % 16) (by omega)
  have hcode : ((0 * 16 + 0) * 16 + c.toNat / 16) * 16 + c.toNat % 16 = c.toNat := by omega
  have hnotHigh : ¬ (0xD800 ≤ c.toNat ∧ c.toNat < 0xDC00) := by omega
  have hnotLow : ¬ (0xDC00 ≤ c.toNat ∧ c.toNat < 0xE000) := by omega
  simp only [parseEscape, parseHex, hzero, hhigh, hlow, hcode, if_neg hnotHigh, if_neg hnotLow,
    Char.ofNat_toNat]

/-- What a character is printed as starts with no quotation mark, and reads back. -/
theorem parseChar_escapeChar (c : Char) (rest : List Char) :
    (∃ first tail, escapeChar c = first :: tail ∧ first ≠ quote) ∧
      parseChar (escapeChar c ++ rest) = some (c, rest) := by
  unfold escapeChar
  cases hlookup : escapes.lookup c with
  | some e =>
    have hmem : (c, e) ∈ escapes := by
      obtain ⟨before, after, hsplit, -⟩ := List.lookup_eq_some_iff.1 hlookup
      rw [hsplit]
      simp
    refine ⟨⟨'\\', [e], rfl, by decide⟩, ?_⟩
    exact parseEscape_of_mem_escapes hmem rest
  | none =>
    dsimp only
    by_cases hcontrol : c.toNat < 0x20
    · rw [if_pos hcontrol]
      refine ⟨⟨'\\', _, rfl, by decide⟩, ?_⟩
      exact parseEscape_code hcontrol rest
    · have hfree : ∀ entry ∈ escapes, c ≠ entry.1 := by
        intro entry hentry
        simpa using List.lookup_eq_none_iff.1 hlookup entry hentry
      have hbackslash : c ≠ '\\' := hfree ('\\', '\\') (by decide)
      have hquote : c ≠ quote := hfree (quote, quote) (by decide)
      rw [if_neg hcontrol]
      refine ⟨⟨c, [], rfl, hquote⟩, ?_⟩
      have hplain : ¬ (c = quote ∨ c.toNat < 0x20) := by
        rintro (h | h)
        · exact hquote h
        · exact hcontrol h
      show (if c = '\\' then _ else _) = _
      rw [if_neg hbackslash, if_neg hplain]
      rfl

/-- A printed string reads back up to its closing quotation mark. -/
theorem parseChars_printed (text rest : List Char) {fuel : ℕ} (h : text.length < fuel) :
    parseChars fuel (text.flatMap escapeChar ++ quote :: rest) = some (text, rest) := by
  induction text generalizing fuel with
  | nil =>
    obtain ⟨fuel, rfl⟩ := Nat.exists_eq_add_of_lt h
    rfl
  | cons c text ih =>
    cases fuel with
    | zero => cases h
    | succ fuel =>
      obtain ⟨⟨first, tail, hescape, hquote⟩, hchar⟩ :=
        parseChar_escapeChar c (text.flatMap escapeChar ++ quote :: rest)
      rw [hescape, List.cons_append] at hchar
      rw [List.flatMap_cons, hescape, List.append_assoc, List.cons_append, parseChars,
        if_neg hquote, hchar]
      dsimp only
      rw [ih (Nat.lt_of_succ_lt_succ h)]

theorem length_le_length_flatMap_escapeChar (text : List Char) :
    text.length ≤ (text.flatMap escapeChar).length := by
  induction text with
  | nil => exact Nat.le_refl 0
  | cons c text ih =>
    obtain ⟨⟨first, tail, hescape, -⟩, -⟩ := parseChar_escapeChar c []
    rw [List.flatMap_cons, hescape, List.length_append, List.length_cons, List.length_cons]
    omega

theorem parseString_printed (text : String) (rest : List Char) :
    parseString (text.toList.flatMap escapeChar ++ quote :: rest) = some (text, rest) := by
  have hlen := length_le_length_flatMap_escapeChar text.toList
  rw [parseString, parseChars_printed]
  · dsimp only
    rw [String.ofList_toList]
  · rw [List.length_append]
    omega

/-! ## Documents read back -/

mutual

/-- The numbers of a document are numbers. -/
def WellFormed : Json → Prop
  | .null => True
  | .bool _ => True
  | .number text => isNumber text.toList = true ∧ text.toList.all isNumberChar = true
  | .string _ => True
  | .array elements => WellFormedElements elements
  | .object members => WellFormedMembers members

/-- All elements are well formed. -/
def WellFormedElements : List Json → Prop
  | [] => True
  | element :: elements => element.WellFormed ∧ WellFormedElements elements

/-- All members are well formed. -/
def WellFormedMembers : List (String × Json) → Prop
  | [] => True
  | (_, value) :: members => value.WellFormed ∧ WellFormedMembers members

end

mutual

/-- How much fuel the parser needs for a document. -/
def cost : Json → ℕ
  | .null => 1
  | .bool _ => 1
  | .number _ => 1
  | .string _ => 1
  | .array [] => 1
  | .array (element :: elements) => 1 + element.cost + costElements elements
  | .object [] => 1
  | .object ((_, value) :: members) => 1 + value.cost + costMembers members

/-- How much fuel it needs for the elements after the first. -/
def costElements : List Json → ℕ
  | [] => 1
  | element :: elements => 1 + element.cost + costElements elements

/-- How much fuel it needs for the members after the first. -/
def costMembers : List (String × Json) → ℕ
  | [] => 1
  | (_, value) :: members => 1 + value.cost + costMembers members

end

/-- No number goes on in what follows. -/
def Ends (rest : List Char) : Prop := ∀ c tail, rest = c :: tail → isNumberChar c = false

theorem skipSpace_cons {c : Char} (h : isSpace c = false) (rest : List Char) :
    skipSpace (c :: rest) = c :: rest :=
  List.dropWhile_cons_of_neg (by rw [h]; decide)

theorem ends_printElements (elements : List Json) (rest : List Char) :
    Ends (printElements elements ++ rest) := by
  intro c tail h
  cases elements with
  | nil =>
    obtain ⟨rfl, -⟩ := List.cons.inj h
    rfl
  | cons element elements =>
    obtain ⟨rfl, -⟩ := List.cons.inj h
    rfl

theorem ends_printMembers (members : List (String × Json)) (rest : List Char) :
    Ends (printMembers members ++ rest) := by
  intro c tail h
  cases members with
  | nil =>
    obtain ⟨rfl, -⟩ := List.cons.inj h
    rfl
  | cons member members =>
    obtain ⟨rfl, -⟩ := List.cons.inj h
    rfl

theorem ne_of_isNumberChar {c d : Char} (h : isNumberChar c = true) (hd : isNumberChar d = false) :
    c ≠ d := by
  rintro rfl
  rw [h] at hd
  cases hd

/-- White space is no part of a number. -/
theorem isSpace_of_isNumberChar {c : Char} (h : isNumberChar c = true) : isSpace c = false := by
  have hblank := ne_of_isNumberChar h (d := ' ') rfl
  have htab := ne_of_isNumberChar h (d := '\t') rfl
  have hline := ne_of_isNumberChar h (d := '\n') rfl
  have hreturn := ne_of_isNumberChar h (d := '\r') rfl
  simp [isSpace, hblank, htab, hline, hreturn]

/-- A document starts neither with white space nor with a closing bracket. -/
theorem printChars_head {json : Json} (h : json.WellFormed) :
    ∃ c tail, json.printChars = c :: tail ∧ isSpace c = false ∧ c ≠ ']' := by
  cases json with
  | null => exact ⟨_, _, rfl, rfl, by decide⟩
  | bool value => cases value <;> exact ⟨_, _, rfl, rfl, by decide⟩
  | number text =>
    obtain ⟨hnumber, hchars⟩ := h
    cases htext : text.toList with
    | nil =>
      rw [htext] at hnumber
      cases hnumber
    | cons c tail =>
      rw [htext, List.all_cons, Bool.and_eq_true] at hchars
      exact ⟨c, tail, htext, isSpace_of_isNumberChar hchars.1, ne_of_isNumberChar hchars.1 rfl⟩
  | string value => exact ⟨_, _, rfl, rfl, by decide⟩
  | array elements => cases elements <;> exact ⟨_, _, rfl, rfl, by decide⟩
  | object members => cases members <;> exact ⟨_, _, rfl, rfl, by decide⟩

/-- The name of a member and its colon. -/
theorem parseName_printed (name : String) (rest : List Char) :
    parseName (printString name ++ ':' :: rest) = some (name, rest) := by
  have hstring := parseString_printed name (':' :: rest)
  have hcolon : skipSpace (':' :: rest) = ':' :: rest := skipSpace_cons rfl rest
  rw [printString, List.cons_append, List.append_assoc, List.singleton_append, parseName,
    if_pos rfl, hstring]
  dsimp only
  rw [hcolon]
  dsimp only
  rw [if_pos rfl]

theorem parseNumber_printed {text : String} (hnumber : isNumber text.toList = true)
    (hchars : text.toList.all isNumberChar = true) {rest : List Char} (hends : Ends rest) :
    parseNumber (text.toList ++ rest) = some (.number text, rest) := by
  have hall : ∀ c ∈ text.toList, isNumberChar c = true := List.all_eq_true.1 hchars
  have hrest : rest.takeWhile isNumberChar = [] ∧ rest.dropWhile isNumberChar = rest := by
    cases rest with
    | nil => exact ⟨rfl, rfl⟩
    | cons c tail =>
      have hc := hends c tail rfl
      rw [List.takeWhile_cons_of_neg (by rw [hc]; decide),
        List.dropWhile_cons_of_neg (by rw [hc]; decide)]
      exact ⟨rfl, rfl⟩
  rw [parseNumber, List.takeWhile_append_of_pos hall, List.dropWhile_append_of_pos hall, hrest.1,
    hrest.2, List.append_nil, if_pos hnumber, String.ofList_toList]

theorem cost_pos (json : Json) : 0 < json.cost := by
  cases json with
  | array elements => cases elements <;> simp [cost]
  | object members => cases members <;> simp [cost]
  | _ => simp [cost]

mutual

/-- A printed document reads back, in front of what does not go on with a number. -/
theorem parseValue_printed (json : Json) (hwell : json.WellFormed) {fuel : ℕ}
    (hfuel : json.cost ≤ fuel) {rest : List Char} (hends : Ends rest) :
    parseValue fuel (json.printChars ++ rest) = some (json, rest) := by
  cases fuel with
  | zero =>
    have hpos := cost_pos json
    omega
  | succ fuel =>
    cases json with
    | null => rfl
    | bool value => cases value <;> rfl
    | number text =>
      obtain ⟨hnumber, hchars⟩ := hwell
      have hparse := parseNumber_printed hnumber hchars hends
      cases htext : text.toList with
      | nil =>
        rw [htext] at hnumber
        cases hnumber
      | cons c tail =>
        rw [htext, List.all_cons, Bool.and_eq_true] at hchars
        rw [htext] at hparse
        rw [printChars, htext, List.cons_append, parseValue,
          skipSpace_cons (isSpace_of_isNumberChar hchars.1)]
        dsimp only
        rw [if_neg (ne_of_isNumberChar hchars.1 rfl), if_neg (ne_of_isNumberChar hchars.1 rfl),
          if_neg (ne_of_isNumberChar hchars.1 rfl), if_neg (ne_of_isNumberChar hchars.1 rfl),
          if_neg (ne_of_isNumberChar hchars.1 rfl), if_neg (ne_of_isNumberChar hchars.1 rfl)]
        exact hparse
    | string value =>
      have hstring := parseString_printed value rest
      rw [printChars, printString, List.cons_append, List.append_assoc, List.singleton_append,
        parseValue, skipSpace_cons rfl]
      dsimp only
      rw [if_pos rfl, hstring]
      rfl
    | array elements =>
      cases elements with
      | nil => rfl
      | cons element elements =>
        rw [WellFormed, WellFormedElements] at hwell
        rw [cost] at hfuel
        obtain ⟨c, tail, hhead, hspace, hbracket⟩ := printChars_head hwell.1
        have helement := parseValue_printed element hwell.1 (show _ ≤ fuel by omega)
          (ends_printElements elements rest)
        have helements := parseElements_printed elements hwell.2 (show _ ≤ fuel by omega) rest
        rw [printChars, List.cons_append, List.append_assoc, parseValue, skipSpace_cons rfl]
        dsimp only
        have hskip : skipSpace (element.printChars ++ (printElements elements ++ rest)) =
            c :: (tail ++ (printElements elements ++ rest)) := by
          rw [hhead, List.cons_append, skipSpace_cons hspace]
        rw [hhead, List.cons_append] at helement
        rw [if_neg (by decide), if_pos rfl, hskip]
        dsimp only
        rw [if_neg hbracket, helement]
        dsimp only
        rw [helements]
    | object members =>
      cases members with
      | nil => rfl
      | cons member members =>
        obtain ⟨name, value⟩ := member
        rw [WellFormed, WellFormedMembers] at hwell
        rw [cost] at hfuel
        have hname := parseName_printed name
          (value.printChars ++ (printMembers members ++ rest))
        have hvalue := parseValue_printed value hwell.1 (show _ ≤ fuel by omega)
          (ends_printMembers members rest)
        have hmembers := parseMembers_printed members hwell.2 (show _ ≤ fuel by omega) rest
        rw [printString, List.cons_append] at hname
        rw [printChars, List.cons_append, List.append_assoc, List.cons_append, List.append_assoc,
          printString, List.cons_append, parseValue, skipSpace_cons rfl]
        dsimp only
        rw [if_neg (by decide), if_neg (by decide), if_pos rfl, skipSpace_cons rfl]
        dsimp only
        rw [if_neg (by decide), hname]
        dsimp only
        rw [hvalue]
        dsimp only
        rw [hmembers]

/-- The printed elements after the first read back. -/
theorem parseElements_printed (elements : List Json) (hwell : WellFormedElements elements)
    {fuel : ℕ} (hfuel : costElements elements ≤ fuel) (rest : List Char) :
    parseElements fuel (printElements elements ++ rest) = some (elements, rest) := by
  cases fuel with
  | zero => cases elements <;> simp [costElements] at hfuel
  | succ fuel =>
    cases elements with
    | nil => rfl
    | cons element elements =>
      rw [WellFormedElements] at hwell
      rw [costElements] at hfuel
      have helement := parseValue_printed element hwell.1 (show _ ≤ fuel by omega)
        (ends_printElements elements rest)
      have helements := parseElements_printed elements hwell.2 (show _ ≤ fuel by omega) rest
      rw [printElements, List.cons_append, List.append_assoc, parseElements, skipSpace_cons rfl]
      dsimp only
      rw [if_neg (by decide), if_pos rfl, helement]
      dsimp only
      rw [helements]

/-- The printed members after the first read back. -/
theorem parseMembers_printed (members : List (String × Json)) (hwell : WellFormedMembers members)
    {fuel : ℕ} (hfuel : costMembers members ≤ fuel) (rest : List Char) :
    parseMembers fuel (printMembers members ++ rest) = some (members, rest) := by
  cases fuel with
  | zero => cases members <;> simp [costMembers] at hfuel
  | succ fuel =>
    cases members with
    | nil => rfl
    | cons member members =>
      obtain ⟨name, value⟩ := member
      rw [WellFormedMembers] at hwell
      rw [costMembers] at hfuel
      have hname := parseName_printed name (value.printChars ++ (printMembers members ++ rest))
      have hvalue := parseValue_printed value hwell.1 (show _ ≤ fuel by omega)
        (ends_printMembers members rest)
      have hmembers := parseMembers_printed members hwell.2 (show _ ≤ fuel by omega) rest
      have hskip : skipSpace (printString name ++
          ':' :: (value.printChars ++ (printMembers members ++ rest))) =
          printString name ++ ':' :: (value.printChars ++ (printMembers members ++ rest)) :=
        skipSpace_cons rfl _
      rw [printMembers, List.cons_append, List.append_assoc, List.cons_append, List.append_assoc,
        parseMembers, skipSpace_cons rfl]
      dsimp only
      rw [if_neg (by decide), if_pos rfl, hskip, hname]
      dsimp only
      rw [hvalue]
      dsimp only
      rw [hmembers]

end

mutual

/-- The fuel that a document needs is at most the length of its text. -/
theorem cost_le_length (json : Json) (hwell : json.WellFormed) :
    json.cost ≤ json.printChars.length := by
  cases json with
  | null => simp [cost, printChars]
  | bool value => cases value <;> simp [cost, printChars]
  | number text =>
    obtain ⟨c, tail, hhead, -⟩ := printChars_head hwell
    rw [hhead, cost, List.length_cons]
    omega
  | string value => simp [cost, printChars, printString]
  | array elements =>
    cases elements with
    | nil => simp [cost, printChars]
    | cons element elements =>
      rw [WellFormed, WellFormedElements] at hwell
      have helement := cost_le_length element hwell.1
      have helements := costElements_le_length elements hwell.2
      rw [cost, printChars, List.length_cons, List.length_append]
      omega
  | object members =>
    cases members with
    | nil => simp [cost, printChars]
    | cons member members =>
      obtain ⟨name, value⟩ := member
      rw [WellFormed, WellFormedMembers] at hwell
      have hvalue := cost_le_length value hwell.1
      have hmembers := costMembers_le_length members hwell.2
      rw [cost, printChars]
      simp only [List.length_cons, List.length_append]
      omega

theorem costElements_le_length (elements : List Json) (hwell : WellFormedElements elements) :
    costElements elements ≤ (printElements elements).length := by
  cases elements with
  | nil => simp [costElements, printElements]
  | cons element elements =>
    rw [WellFormedElements] at hwell
    have helement := cost_le_length element hwell.1
    have helements := costElements_le_length elements hwell.2
    rw [costElements, printElements, List.length_cons, List.length_append]
    omega

theorem costMembers_le_length (members : List (String × Json))
    (hwell : WellFormedMembers members) :
    costMembers members ≤ (printMembers members).length := by
  cases members with
  | nil => simp [costMembers, printMembers]
  | cons member members =>
    obtain ⟨name, value⟩ := member
    rw [WellFormedMembers] at hwell
    have hvalue := cost_le_length value hwell.1
    have hmembers := costMembers_le_length members hwell.2
    rw [costMembers, printMembers]
    simp only [List.length_cons, List.length_append]
    omega

end

/-- The parser reads back what was printed. -/
theorem parse_print {json : Json} (hwell : json.WellFormed) : parse json.print = some json := by
  have hlength := cost_le_length json hwell
  have hparse := parseValue_printed json hwell (Nat.le_succ_of_le hlength)
    (fun c tail h => nomatch (h : [] = c :: tail))
  rw [List.append_nil] at hparse
  rw [parse, print, String.toList_ofList, String.length_ofList, hparse]
  rfl

/-! ## Integers -/

/-- The text of an integer. -/
def intChars : ℤ → List Char
  | .ofNat n => Nat.toDigits 10 n
  | .negSucc n => '-' :: Nat.toDigits 10 (n + 1)

/-- An integer as a number. -/
def ofInt (z : ℤ) : Json := .number (String.ofList (intChars z))

/-- The number that digits denote. -/
def charsToNat (digits : List Char) : Option ℕ :=
  if areDigits digits then some (Nat.ofDigitChars 10 digits 0) else none

/-- The integer that a text denotes. Minus zero is none. -/
def charsToInt : List Char → Option ℤ
  | [] => none
  | c :: rest =>
    if c = '-' then (charsToNat rest).bind fun n => if n = 0 then none else some (-n)
    else (charsToNat (c :: rest)).map fun n => n

/-- A number that is written as an integer. -/
def toInt : Json → Option ℤ
  | .number text => charsToInt text.toList
  | _ => none

theorem isDigit_of_mem_toDigits {n : ℕ} {c : Char} (h : c ∈ Nat.toDigits 10 n) :
    c.isDigit = true :=
  Nat.isDigit_of_mem_toDigits (by decide) (by decide) h

theorem areDigits_toDigits (n : ℕ) : areDigits (Nat.toDigits 10 n) = true := by
  have hall : (Nat.toDigits 10 n).all Char.isDigit = true :=
    List.all_eq_true.2 fun c hc => isDigit_of_mem_toDigits hc
  simp [areDigits, hall, Nat.toDigits_ne_nil]

theorem charsToNat_toDigits (n : ℕ) : charsToNat (Nat.toDigits 10 n) = some n := by
  rw [charsToNat, if_pos (areDigits_toDigits n), Nat.ofDigitChars_ten_toDigits]

/-- The digits of a number do not start with a minus sign. -/
theorem toDigits_eq_cons (n : ℕ) : ∃ c rest, Nat.toDigits 10 n = c :: rest ∧ c.isDigit = true := by
  obtain ⟨c, rest, hcons⟩ := List.exists_cons_of_ne_nil (Nat.toDigits_ne_nil (n := n) (b := 10))
  refine ⟨c, rest, hcons, isDigit_of_mem_toDigits (n := n) ?_⟩
  rw [hcons]
  exact List.mem_cons_self

/-- An integer that is printed reads back. -/
theorem toInt_ofInt (z : ℤ) : (ofInt z).toInt = some z := by
  rw [ofInt, toInt, String.toList_ofList]
  cases z with
  | ofNat n =>
    obtain ⟨c, rest, hcons, hdigit⟩ := toDigits_eq_cons n
    have hminus : c ≠ '-' := by
      rintro rfl
      cases hdigit
    have hvalue := charsToNat_toDigits n
    rw [hcons] at hvalue
    rw [intChars, hcons, charsToInt, if_neg hminus, hvalue]
    rfl
  | negSucc n =>
    rw [intChars, charsToInt, if_pos rfl, charsToNat_toDigits, Option.bind_some,
      if_neg (Nat.succ_ne_zero n)]
    rfl

/-- No number but zero starts with the digit zero. -/
theorem head_toDigits_ne {n : ℕ} (hn : n ≠ 0) {c : Char} {rest : List Char}
    (h : Nat.toDigits 10 n = c :: rest) : c ≠ '0' := by
  induction n using Nat.strong_induction_on generalizing rest with
  | _ n ih =>
    by_cases hsmall : n < 10
    · have hall : ∀ m < 10, m ≠ 0 → Nat.digitChar m ≠ '0' := by decide
      rw [Nat.toDigits_of_lt_base hsmall] at h
      obtain ⟨rfl, -⟩ := List.cons.inj h
      exact hall n hsmall hn
    · obtain ⟨first, tail, hfirst⟩ :=
        List.exists_cons_of_ne_nil (Nat.toDigits_ne_nil (n := n / 10) (b := 10))
      rw [Nat.toDigits_of_base_le (by decide) (by omega), hfirst, List.cons_append] at h
      obtain ⟨rfl, -⟩ := List.cons.inj h
      exact ih (n / 10) (by omega) (by omega) hfirst

theorem isUnsigned_toDigits (n : ℕ) : isUnsigned (Nat.toDigits 10 n) = true := by
  by_cases hn : n = 0
  · subst hn
    decide
  · obtain ⟨c, rest, hcons, hdigit⟩ := toDigits_eq_cons n
    have hzero := head_toDigits_ne hn hcons
    have hrest : rest.dropWhile Char.isDigit = [] := by
      refine List.dropWhile_eq_nil_iff.2 fun d hd => isDigit_of_mem_toDigits (n := n) ?_
      rw [hcons]
      exact List.mem_cons_of_mem c hd
    rw [hcons]
    unfold isUnsigned
    split
    · rename_i hnil
      cases hnil
    · rename_i heq
      exact absurd (List.cons.inj heq).1 hzero
    · rename_i heq
      obtain ⟨rfl, rfl⟩ := List.cons.inj heq
      simp [hdigit, hrest, isFraction, isExponent]

/-- A list of well-formed documents. -/
theorem wellFormedElements_map {α : Type} {encode : α → Json}
    (h : ∀ value, (encode value).WellFormed) (values : List α) :
    WellFormedElements (values.map encode) := by
  induction values with
  | nil => trivial
  | cons value values ih => exact ⟨h value, ih⟩

/-- An integer is a number. -/
theorem wellFormed_ofInt (z : ℤ) : (ofInt z).WellFormed := by
  have hchars : ∀ n, (Nat.toDigits 10 n).all isNumberChar = true := by
    intro n
    refine List.all_eq_true.2 fun c hc => ?_
    simp [isNumberChar, isDigit_of_mem_toDigits hc]
  rw [ofInt, WellFormed, String.toList_ofList]
  cases z with
  | ofNat n =>
    obtain ⟨c, rest, hcons, hdigit⟩ := toDigits_eq_cons n
    have hunsigned := isUnsigned_toDigits n
    refine ⟨?_, hchars n⟩
    rw [intChars, hcons] at *
    unfold isNumber
    split
    · rename_i heq
      obtain ⟨rfl, -⟩ := List.cons.inj heq
      cases hdigit
    · exact hunsigned
  | negSucc n =>
    refine ⟨isUnsigned_toDigits (n + 1), ?_⟩
    rw [intChars, List.all_cons, hchars]
    rfl

end Json
