import MediaScanMonitor.Lib.Percent

/-!
# JSON

RFC 8259 as a grammar (`Denotes`), a parser of it (`loads`) and the encoder of Python (`dumps`). A
string is read by its UTF-16 code units, since these are what an escape stands for; a number is kept
as it is written. The parser reads whatever the grammar derives, and the encoder writes what the
grammar derives, so that `loads` undoes `dumps`.
-/

namespace Json
open Text

/-! ## Code units -/

/-- The UTF-16 code units of a character. -/
def utf16 (c : Char) : List Nat :=
  if c.toNat < 0x10000 then [c.toNat]
  else [0xd800 + (c.toNat - 0x10000) / 0x400, 0xdc00 + (c.toNat - 0x10000) % 0x400]

/-- The text of some code units; `none` when a surrogate has no partner. -/
def ofUtf16 : List Nat → Option Str
  | [] => some []
  | [u] => if 0xd800 ≤ u ∧ u < 0xe000 then none else some [Char.ofNat u]
  | u :: v :: rest =>
    if 0xd800 ≤ u ∧ u < 0xdc00 then
      if 0xdc00 ≤ v ∧ v < 0xe000 then
        (ofUtf16 rest).map (Char.ofNat (0x10000 + (u - 0xd800) * 0x400 + (v - 0xdc00)) :: ·)
      else none
    else if 0xdc00 ≤ u ∧ u < 0xe000 then none
    else (ofUtf16 (v :: rest)).map (Char.ofNat u :: ·)

/-- The unit that four hexadecimal digits are. -/
def unitOf (a b c d : Char) : Option Nat := do
  let a ← Percent.hexValue a
  let b ← Percent.hexValue b
  let c ← Percent.hexValue c
  let d ← Percent.hexValue d
  pure (a * 4096 + b * 256 + c * 16 + d)

/-- A unit as `\uXXXX`. -/
def escapeUnit (u : Nat) : Str :=
  ['\\', 'u', Nat.digitChar (u / 4096 % 16), Nat.digitChar (u / 256 % 16),
    Nat.digitChar (u / 16 % 16), Nat.digitChar (u % 16)]

/-! ## Values -/

/-- What a number is written with. -/
def isNumberChar (c : Char) : Bool :=
  c.isDigit || c = '-' || c = '+' || c = '.' || c = 'e' || c = 'E'

/-- The digits before the point. -/
def isInt (s : Str) : Bool :=
  s ≠ [] && (s.length = 1 || s.head? ≠ some '0')

def isExponent : Str → Bool
  | [] => true
  | e :: '+' :: digits => (e = 'e' || e = 'E') && digits ≠ [] && digits.all Char.isDigit
  | e :: '-' :: digits => (e = 'e' || e = 'E') && digits ≠ [] && digits.all Char.isDigit
  | e :: digits => (e = 'e' || e = 'E') && digits ≠ [] && digits.all Char.isDigit

def isFraction : Str → Bool
  | '.' :: s => s.takeWhile Char.isDigit ≠ [] && isExponent (s.dropWhile Char.isDigit)
  | s => isExponent s

/-- `number` of the RFC. -/
def isNumber : Str → Bool
  | '-' :: s => isInt (s.takeWhile Char.isDigit) && isFraction (s.dropWhile Char.isDigit)
  | s => isInt (s.takeWhile Char.isDigit) && isFraction (s.dropWhile Char.isDigit)

/-- A number, by its text. -/
structure Number where
  text : Str
  chars : text.all isNumberChar = true
  valid : isNumber text = true
deriving DecidableEq

inductive Value
  | null
  | bool (b : Bool)
  | number (n : Number)
  | string (s : Str)
  | array (items : List Value)
  /-- The members in order. -/
  | object (members : List (Str × Value))

/-! ## Grammar -/

/-- `ws` of the RFC. -/
def isWs (c : Char) : Bool :=
  c = ' ' || c = '\t' || c = '\n' || c = '\r'

/-- White space. -/
def Space (w : Str) : Prop := w.all isWs = true

instance (w : Str) : Decidable (Space w) := inferInstanceAs (Decidable (_ = _))

/-- The unit that a letter after a backslash stands for. -/
def unescape (c : Char) : Option Nat :=
  if c = '"' then some 0x22
  else if c = '\\' then some 0x5c
  else if c = '/' then some 0x2f
  else if c = 'b' then some 8
  else if c = 'f' then some 12
  else if c = 'n' then some 10
  else if c = 'r' then some 13
  else if c = 't' then some 9
  else none

/-- The units that stand between the quotation marks of a string. -/
inductive Chars : List Nat → Str → Prop
  | nil : Chars [] []
  | plain (c : Char) {units : List Nat} {body : Str} : c ≠ '"' → c ≠ '\\' → 0x20 ≤ c.toNat →
      Chars units body → Chars (utf16 c ++ units) (c :: body)
  | escape (c : Char) {u : Nat} {units : List Nat} {body : Str} : unescape c = some u →
      Chars units body → Chars (u :: units) ('\\' :: c :: body)
  | unicode (a b c d : Char) {u : Nat} {units : List Nat} {body : Str} : unitOf a b c d = some u →
      Chars units body → Chars (u :: units) ('\\' :: 'u' :: a :: b :: c :: d :: body)

/-- What a stretch of text is about: a value, or what stands between the brackets of one. -/
inductive Node
  | value (v : Value)
  | items (vs : List Value)
  | members (ms : List (Str × Value))

/-- The texts of a node. -/
inductive Denotes : Node → Str → Prop
  | null : Denotes (.value .null) "null".toList
  | true : Denotes (.value (.bool true)) "true".toList
  | false : Denotes (.value (.bool false)) "false".toList
  | number (n : Number) : Denotes (.value (.number n)) n.text
  | string {s body : Str} : Chars (s.flatMap utf16) body →
      Denotes (.value (.string s)) ('"' :: (body ++ ['"']))
  | noItems {w : Str} : Space w → Denotes (.value (.array [])) ('[' :: (w ++ [']']))
  | array {vs : List Value} {t : Str} : Denotes (.items vs) t →
      Denotes (.value (.array vs)) ('[' :: (t ++ [']']))
  | noMembers {w : Str} : Space w → Denotes (.value (.object [])) ('\x7b' :: (w ++ ['\x7d']))
  | object {ms : List (Str × Value)} {t : Str} : Denotes (.members ms) t →
      Denotes (.value (.object ms)) ('\x7b' :: (t ++ ['\x7d']))
  | item {v : Value} {w t w' : Str} : Space w → Denotes (.value v) t → Space w' →
      Denotes (.items [v]) (w ++ (t ++ w'))
  | items {v : Value} {vs : List Value} {w t w' t' : Str} : Space w → Denotes (.value v) t →
      Space w' → Denotes (.items vs) t' → Denotes (.items (v :: vs)) (w ++ (t ++ (w' ++ ',' :: t')))
  | member {k body : Str} {v : Value} {w w₁ w₂ t w' : Str} : Space w →
      Chars (k.flatMap utf16) body → Space w₁ → Space w₂ → Denotes (.value v) t → Space w' →
      Denotes (.members [(k, v)]) (w ++ '"' :: (body ++ '"' :: (w₁ ++ ':' :: (w₂ ++ (t ++ w')))))
  | members {k body : Str} {v : Value} {ms : List (Str × Value)} {w w₁ w₂ t w' t' : Str} : Space w →
      Chars (k.flatMap utf16) body → Space w₁ → Space w₂ → Denotes (.value v) t → Space w' →
      Denotes (.members ms) t' →
      Denotes (.members ((k, v) :: ms))
        (w ++ '"' :: (body ++ '"' :: (w₁ ++ ':' :: (w₂ ++ (t ++ (w' ++ ',' :: t'))))))

/-! ## Parser -/

/-- A string up to its closing quotation mark, and what follows. -/
def units : Str → Option (List Nat × Str)
  | [] => none
  | '"' :: rest => some ([], rest)
  | '\\' :: 'u' :: a :: b :: c :: d :: rest => do
    let u ← unitOf a b c d
    let (us, rest) ← units rest
    pure (u :: us, rest)
  | '\\' :: c :: rest => do
    let u ← unescape c
    let (us, rest) ← units rest
    pure (u :: us, rest)
  | c :: rest =>
    if c = '\\' ∨ c.toNat < 0x20 then none
    else do
      let (us, rest) ← units rest
      pure (utf16 c ++ us, rest)

/-- The same as a text. -/
def string (s : Str) : Option (Str × Str) := do
  let (us, rest) ← units s
  let t ← ofUtf16 us
  pure (t, rest)

def skipSpace (s : Str) : Str :=
  s.dropWhile isWs

/-- A number and what follows. -/
def number (s : Str) : Option (Value × Str) :=
  if h : isNumber (s.takeWhile isNumberChar) = true then
    some (.number ⟨s.takeWhile isNumberChar, List.all_takeWhile, h⟩, s.dropWhile isNumberChar)
  else none

mutual

/-- A value and what follows. -/
def value : Nat → Str → Option (Value × Str)
  | 0, _ => none
  | fuel + 1, s =>
    match skipSpace s with
    | 'n' :: 'u' :: 'l' :: 'l' :: rest => some (.null, rest)
    | 't' :: 'r' :: 'u' :: 'e' :: rest => some (.bool true, rest)
    | 'f' :: 'a' :: 'l' :: 's' :: 'e' :: rest => some (.bool false, rest)
    | '"' :: rest => (string rest).map fun (s, rest) => (.string s, rest)
    | '[' :: rest =>
      match skipSpace rest with
      | ']' :: rest => some (.array [], rest)
      | rest => (items fuel rest).map fun (vs, rest) => (.array vs, rest)
    | '\x7b' :: rest =>
      match skipSpace rest with
      | '\x7d' :: rest => some (.object [], rest)
      | rest => (members fuel rest).map fun (ms, rest) => (.object ms, rest)
    | s => number s

/-- The items of an array up to its closing bracket. -/
def items : Nat → Str → Option (List Value × Str)
  | 0, _ => none
  | fuel + 1, s => do
    let (v, rest) ← value fuel s
    match skipSpace rest with
    | ',' :: rest => (items fuel rest).map fun (vs, rest) => (v :: vs, rest)
    | ']' :: rest => some ([v], rest)
    | _ => none

/-- The members of an object up to its closing brace. -/
def members : Nat → Str → Option (List (Str × Value) × Str)
  | 0, _ => none
  | fuel + 1, s =>
    match skipSpace s with
    | '"' :: rest => do
      let (k, rest) ← string rest
      match skipSpace rest with
      | ':' :: rest => do
        let (v, rest) ← value fuel rest
        match skipSpace rest with
        | ',' :: rest => (members fuel rest).map fun (ms, rest) => ((k, v) :: ms, rest)
        | '\x7d' :: rest => some ([(k, v)], rest)
        | _ => none
      | _ => none
    | _ => none

end

/-- `json.loads(s)`, `JSON.parse(s)`; `none` when they raise. -/
def loads (s : Str) : Option Value := do
  let (v, rest) ← value (s.length + 1) s
  if skipSpace rest = [] then some v else none

/-- The member of an object; the last one of a name counts. -/
def Value.get (v : Value) (k : Str) : Option Value :=
  match v with
  | .object ms => (ms.reverse.find? fun m => m.1 = k).map Prod.snd
  | _ => none

lemma Value.get_object (ms : List (Str × Value)) (k : Str) :
    (Value.object ms).get k = (ms.reverse.find? fun m => m.1 = k).map Prod.snd := rfl

/-! ### Strings -/

lemma units_plain {c : Char} (hq : c ≠ '"') (hb : c ≠ '\\') (hc : 0x20 ≤ c.toNat) (rest : Str) :
    units (c :: rest) = (units rest).map fun p => (utf16 c ++ p.1, p.2) := by
  rw [units.eq_def]
  split
  · next heq => cases heq
  · next heq =>
    cases heq
    exact absurd rfl hq
  · next heq =>
    cases heq
    exact absurd rfl hb
  · next heq =>
    cases heq
    exact absurd rfl hb
  · next heq =>
    cases heq
    rw [if_neg fun h => h.elim hb fun h => absurd h (Nat.not_lt.2 hc)]
    cases units rest <;> rfl

/-- A letter after a backslash is not the `u` of four digits. -/
lemma units_escape {c : Char} {u : Nat} (hu : unescape c = some u) (rest : Str) :
    units ('\\' :: c :: rest) = (units rest).map fun p => (u :: p.1, p.2) := by
  have hc : c ≠ 'u' := by
    rintro rfl
    cases hu
  rw [units.eq_def]
  split
  · next heq => cases heq
  · next heq => cases heq
  · next heq =>
    cases heq
    exact absurd rfl hc
  · next heq =>
    cases heq
    rw [hu]
    cases units rest <;> rfl
  · next hno heq =>
    cases heq
    exact absurd rfl (hno c rest rfl)

/-- A string is read up to its quotation mark. -/
lemma Chars.read {us : List Nat} {body : Str} (h : Chars us body) (rest : Str) :
    units (body ++ '"' :: rest) = some (us, rest) := by
  induction h with
  | nil => rfl
  | plain c hq hb hc _ ih =>
    rw [List.cons_append, units_plain hq hb hc, ih]
    rfl
  | escape c hu _ ih =>
    rw [List.cons_append, List.cons_append, units_escape hu, ih]
    rfl
  | unicode a b c d hu _ ih =>
    show units ('\\' :: 'u' :: a :: b :: c :: d :: (_ ++ '"' :: rest)) = _
    rw [units, hu, ih]
    rfl

/-- A scalar value is no surrogate. -/
lemma toNat_cases (c : Char) :
    c.toNat < 0xd800 ∨ 0xe000 ≤ c.toNat ∧ c.toNat < 0x110000 := by
  rcases c.valid with h | h
  · exact .inl h
  · exact .inr ⟨h.1, h.2⟩

/-- A unit that is no surrogate stands for itself. -/
lemma ofUtf16_cons {u : Nat} (hu : ¬(0xd800 ≤ u ∧ u < 0xe000)) (us : List Nat) :
    ofUtf16 (u :: us) = (ofUtf16 us).map (Char.ofNat u :: ·) := by
  cases us with
  | nil => exact if_neg hu
  | cons v us => rw [ofUtf16, if_neg (by omega), if_neg (by omega)]

/-- The units of a character are read as the character. -/
lemma ofUtf16_append (c : Char) (us : List Nat) :
    ofUtf16 (utf16 c ++ us) = (ofUtf16 us).map (c :: ·) := by
  have hc := toNat_cases c
  unfold utf16
  split
  · rw [List.singleton_append, ofUtf16_cons (by omega), Char.ofNat_toNat]
  · show ofUtf16 (_ :: _ :: us) = _
    have hsum : 0x10000 + (0xd800 + (c.toNat - 0x10000) / 0x400 - 0xd800) * 0x400 +
        (0xdc00 + (c.toNat - 0x10000) % 0x400 - 0xdc00) = c.toNat := by
      omega
    rw [ofUtf16, if_pos (by omega), if_pos (by omega), hsum, Char.ofNat_toNat]

/-- The units of a text are read as the text. -/
lemma ofUtf16_flatMap (s : Str) : ofUtf16 (s.flatMap utf16) = some s := by
  induction s with
  | nil => rfl
  | cons c s ih =>
    rw [List.flatMap_cons, ofUtf16_append, ih]
    rfl

lemma string_chars {s body : Str} (h : Chars (s.flatMap utf16) body) (rest : Str) :
    string (body ++ '"' :: rest) = some (s, rest) := by
  rw [string, h.read rest]
  show (ofUtf16 (s.flatMap utf16)).bind _ = _
  rw [ofUtf16_flatMap]
  rfl

/-! ### White space -/

lemma skipSpace_append {w : Str} (hw : Space w) (s : Str) : skipSpace (w ++ s) = skipSpace s := by
  unfold skipSpace
  rw [List.dropWhile_append, List.dropWhile_eq_nil_iff.2 (List.all_eq_true.1 hw)]
  rfl

lemma skipSpace_cons {c : Char} (hc : isWs c = false) (s : Str) : skipSpace (c :: s) = c :: s :=
  List.dropWhile_cons_of_neg (Bool.eq_false_iff.1 hc)

/-- No number goes on here. -/
def Stops (r : Str) : Prop :=
  ∀ c ∈ r.head?, isNumberChar c = false

lemma stops_cons {c : Char} (hc : isNumberChar c = false) (r : Str) : Stops (c :: r) := by
  intro d hd
  cases hd
  exact hc

lemma isWs_iff {c : Char} : isWs c = true ↔ c = ' ' ∨ c = '\t' ∨ c = '\n' ∨ c = '\r' := by
  simp only [isWs, Bool.or_eq_true, decide_eq_true_eq, or_assoc]

lemma isNumberChar_of_isWs {c : Char} (h : isWs c = true) : isNumberChar c = false := by
  rcases isWs_iff.1 h with rfl | rfl | rfl | rfl <;> rfl

lemma stops_space {w r : Str} (hw : Space w) (hr : Stops r) : Stops (w ++ r) := by
  cases w with
  | nil => exact hr
  | cons c w => exact stops_cons (isNumberChar_of_isWs (List.all_eq_true.1 hw c List.mem_cons_self)) _

/-! ### Values -/

/-- What a value may begin with. -/
def isOpening (c : Char) : Bool :=
  c.isDigit || c = '-' || c = 'n' || c = 't' || c = 'f' || c = '"' || c = '[' || c = '\x7b'

/-- A number begins with a digit or a sign. -/
lemma Number.head (n : Number) : ∃ c t, n.text = c :: t ∧ (c.isDigit = true ∨ c = '-') := by
  obtain ⟨text, hchars, hvalid⟩ := n
  cases text with
  | nil => cases hvalid
  | cons c t =>
    refine ⟨c, t, rfl, ?_⟩
    by_cases hc : c = '-'
    · exact .inr hc
    · left
      rw [isNumber.eq_def] at hvalid
      split at hvalid
      · next heq =>
        cases heq
        exact absurd rfl hc
      · by_contra hdigit
        rw [List.takeWhile_cons_of_neg hdigit] at hvalid
        cases hvalid

/-- How the text of a node begins. -/
def Node.Opens : Node → Str → Prop
  | .value _, t => ∃ c t', t = c :: t' ∧ isOpening c = true
  | .items _, t => ∃ c t', skipSpace t = c :: t' ∧ isOpening c = true
  | .members _, t => ∃ t', skipSpace t = '"' :: t'

lemma isWs_of_isOpening {c : Char} (h : isOpening c = true) : isWs c = false := by
  apply Bool.eq_false_iff.2
  intro hw
  rcases isWs_iff.1 hw with rfl | rfl | rfl | rfl <;> cases h

lemma Node.Opens.skip {v : Value} {t w : Str} (h : (Node.value v).Opens t) (hw : Space w)
    (r : Str) : ∃ c t', skipSpace (w ++ (t ++ r)) = c :: t' ∧ isOpening c = true := by
  obtain ⟨c, t', rfl, hc⟩ := h
  refine ⟨c, t' ++ r, ?_, hc⟩
  rw [skipSpace_append hw, List.cons_append, skipSpace_cons (isWs_of_isOpening hc)]

lemma Denotes.opens {node : Node} {t : Str} (h : Denotes node t) : node.Opens t := by
  induction h with
  | null => exact ⟨'n', _, rfl, rfl⟩
  | true => exact ⟨'t', _, rfl, rfl⟩
  | false => exact ⟨'f', _, rfl, rfl⟩
  | number n =>
    obtain ⟨c, t, htext, hc⟩ := n.head
    refine ⟨c, t, htext, ?_⟩
    rcases hc with hc | rfl
    · simp [isOpening, hc]
    · rfl
  | string _ => exact ⟨'"', _, rfl, rfl⟩
  | noItems _ => exact ⟨'[', _, rfl, rfl⟩
  | array _ _ => exact ⟨'[', _, rfl, rfl⟩
  | noMembers _ => exact ⟨'\x7b', _, rfl, rfl⟩
  | object _ _ => exact ⟨'\x7b', _, rfl, rfl⟩
  | item hw _ _ ih => exact ih.skip hw _
  | items hw _ _ _ ih _ => exact ih.skip hw _
  | member hw _ _ _ _ _ _ => exact ⟨_, (skipSpace_append hw _).trans (skipSpace_cons rfl _)⟩
  | members hw _ _ _ _ _ _ _ _ => exact ⟨_, (skipSpace_append hw _).trans (skipSpace_cons rfl _)⟩

/-- What the parser makes of the text of a node. -/
def Node.Reads : Node → Str → Prop
  | .value v, t => ∀ fuel r, t.length < fuel → Stops r → Json.value fuel (t ++ r) = some (v, r)
  | .items vs, t => ∀ fuel r, t.length + 1 < fuel →
      Json.items fuel (t ++ ']' :: r) = some (vs, r)
  | .members ms, t => ∀ fuel r, t.length + 1 < fuel →
      Json.members fuel (t ++ '\x7d' :: r) = some (ms, r)

lemma skipSpace_skipSpace (s : Str) : skipSpace (skipSpace s) = skipSpace s :=
  List.dropWhile_idempotent _ s

/-- A value is looked for behind white space. -/
lemma value_congr {s t : Str} (h : skipSpace s = skipSpace t) (fuel : Nat) :
    value fuel s = value fuel t := by
  cases fuel with
  | zero => rfl
  | succ fuel => rw [value, value, h]

lemma items_congr {s t : Str} (h : skipSpace s = skipSpace t) (fuel : Nat) :
    items fuel s = items fuel t := by
  cases fuel with
  | zero => rfl
  | succ fuel => rw [items, items, value_congr h]

lemma members_congr {s t : Str} (h : skipSpace s = skipSpace t) (fuel : Nat) :
    members fuel s = members fuel t := by
  cases fuel with
  | zero => rfl
  | succ fuel => rw [members, members, h]

/-- The number up to the next other character. -/
lemma number_append (n : Number) {r : Str} (hr : Stops r) :
    number (n.text ++ r) = some (.number n, r) := by
  have hnone : r.takeWhile isNumberChar = [] ∧ r.dropWhile isNumberChar = r := by
    cases r with
    | nil => exact ⟨rfl, rfl⟩
    | cons c r =>
      have hc := Bool.eq_false_iff.1 (hr c rfl)
      exact ⟨List.takeWhile_cons_of_neg hc, List.dropWhile_cons_of_neg hc⟩
  have hall := List.all_eq_true.1 n.chars
  have htake : (n.text ++ r).takeWhile isNumberChar = n.text := by
    rw [List.takeWhile_append_of_pos hall, hnone.1, List.append_nil]
  have hdrop : (n.text ++ r).dropWhile isNumberChar = r := by
    rw [List.dropWhile_append_of_pos hall, hnone.2]
  have hvalid : isNumber ((n.text ++ r).takeWhile isNumberChar) = true := by
    rw [htake]
    exact n.valid
  rw [number, dif_pos hvalid, hdrop]
  congr 3
  cases n
  exact (Number.mk.injEq ..).mpr htake

/-- What begins like a number is read as one. -/
lemma value_number {c : Char} {t : Str} (hc : c.isDigit = true ∨ c = '-') (fuel : Nat) :
    value (fuel + 1) (c :: t) = number (c :: t) := by
  have hw : isWs c = false := by
    apply Bool.eq_false_iff.2
    intro hw
    rcases isWs_iff.1 hw with rfl | rfl | rfl | rfl <;> exact absurd hc (by decide)
  rw [value, skipSpace_cons hw]
  split
  · next heq =>
    cases heq
    exact absurd hc (by decide)
  · next heq =>
    cases heq
    exact absurd hc (by decide)
  · next heq =>
    cases heq
    exact absurd hc (by decide)
  · next heq =>
    cases heq
    exact absurd hc (by decide)
  · next heq =>
    cases heq
    exact absurd hc (by decide)
  · next heq =>
    cases heq
    exact absurd hc (by decide)
  · rfl

/-- An array whose bracket is not closed at once. -/
lemma value_array {c : Char} {t : Str} {s : Str} (hs : skipSpace s = c :: t) (hc : c ≠ ']')
    (fuel : Nat) :
    value (fuel + 1) ('[' :: s) = (items fuel s).map fun p => (.array p.1, p.2) := by
  have hfirst : skipSpace ('[' :: s) = '[' :: s := skipSpace_cons rfl s
  simp only [value, hfirst]
  split
  · next heq =>
    rw [hs] at heq
    cases heq
    exact absurd rfl hc
  · rw [items_congr (skipSpace_skipSpace s)]

lemma value_object {c : Char} {t : Str} {s : Str} (hs : skipSpace s = c :: t) (hc : c ≠ '\x7d')
    (fuel : Nat) :
    value (fuel + 1) ('\x7b' :: s) = (members fuel s).map fun p => (.object p.1, p.2) := by
  have hfirst : skipSpace ('\x7b' :: s) = '\x7b' :: s := skipSpace_cons rfl s
  simp only [value, hfirst]
  split
  · next heq =>
    rw [hs] at heq
    cases heq
    exact absurd rfl hc
  · rw [members_congr (skipSpace_skipSpace s)]

lemma value_space {w : Str} (hw : Space w) (s : Str) (fuel : Nat) :
    value fuel (w ++ s) = value fuel s :=
  value_congr (skipSpace_append hw s) fuel

lemma value_string (t : Str) (fuel : Nat) :
    value (fuel + 1) ('"' :: t) = (string t).map fun p => (.string p.1, p.2) := by
  have hfirst : skipSpace ('"' :: t) = '"' :: t := skipSpace_cons rfl t
  simp only [value, hfirst]

lemma value_noItems {s r : Str} (hs : skipSpace s = ']' :: r) (fuel : Nat) :
    value (fuel + 1) ('[' :: s) = some (.array [], r) := by
  have hfirst : skipSpace ('[' :: s) = '[' :: s := skipSpace_cons rfl s
  simp only [value, hfirst, hs]

lemma value_noMembers {s r : Str} (hs : skipSpace s = '\x7d' :: r) (fuel : Nat) :
    value (fuel + 1) ('\x7b' :: s) = some (.object [], r) := by
  have hfirst : skipSpace ('\x7b' :: s) = '\x7b' :: s := skipSpace_cons rfl s
  simp only [value, hfirst, hs]

/-- A value, and then a comma or the closing bracket. -/
lemma items_last {s t r : Str} {v : Value} {fuel : Nat} (hv : value fuel s = some (v, t))
    (ht : skipSpace t = ']' :: r) : items (fuel + 1) s = some ([v], r) := by
  rw [items, hv]
  simp [ht]

lemma items_more {s t r : Str} {v : Value} {fuel : Nat} (hv : value fuel s = some (v, t))
    (ht : skipSpace t = ',' :: r) :
    items (fuel + 1) s = (items fuel r).map fun p => (v :: p.1, p.2) := by
  rw [items, hv]
  simp [ht]

/-- The name of a member, its value, and then a comma or the closing brace. -/
lemma members_last {s body t₁ t₂ t r : Str} {k : Str} {v : Value} {fuel : Nat}
    (hs : skipSpace s = '"' :: body) (hk : string body = some (k, t₁))
    (ht₁ : skipSpace t₁ = ':' :: t₂) (hv : value fuel t₂ = some (v, t))
    (ht : skipSpace t = '\x7d' :: r) : members (fuel + 1) s = some ([(k, v)], r) := by
  simp [members, hs, hk, ht₁, hv, ht]

lemma members_more {s body t₁ t₂ t r : Str} {k : Str} {v : Value} {fuel : Nat}
    (hs : skipSpace s = '"' :: body) (hk : string body = some (k, t₁))
    (ht₁ : skipSpace t₁ = ':' :: t₂) (hv : value fuel t₂ = some (v, t))
    (ht : skipSpace t = ',' :: r) :
    members (fuel + 1) s = (members fuel r).map fun p => ((k, v) :: p.1, p.2) := by
  simp [members, hs, hk, ht₁, hv, ht]

lemma skipSpace_append_of_cons {c : Char} {s t : Str} (h : skipSpace s = c :: t) (r : Str) :
    skipSpace (s ++ r) = c :: (t ++ r) := by
  have h : s.dropWhile isWs = c :: t := h
  rw [skipSpace, List.dropWhile_append, h]
  rfl

/-- The parser reads what the grammar derives. -/
theorem Denotes.reads {node : Node} {t : Str} (h : Denotes node t) : node.Reads t := by
  induction h with
  | null =>
    intro fuel r hfuel _
    cases fuel with
    | zero => cases hfuel
    | succ fuel => simp [value, skipSpace, isWs]
  | true =>
    intro fuel r hfuel _
    cases fuel with
    | zero => cases hfuel
    | succ fuel => simp [value, skipSpace, isWs]
  | false =>
    intro fuel r hfuel _
    cases fuel with
    | zero => cases hfuel
    | succ fuel => simp [value, skipSpace, isWs]
  | number n =>
    intro fuel r hfuel hr
    cases fuel with
    | zero => cases hfuel
    | succ fuel =>
      obtain ⟨c, t, htext, hc⟩ := n.head
      have hread := number_append n hr
      rw [htext, List.cons_append] at hread ⊢
      rw [value_number hc, hread]
  | string hbody =>
    intro fuel r hfuel _
    cases fuel with
    | zero => cases hfuel
    | succ fuel =>
      rw [List.cons_append, List.append_assoc, List.singleton_append, value_string,
        string_chars hbody]
      rfl
  | noItems hw =>
    intro fuel r hfuel _
    cases fuel with
    | zero => cases hfuel
    | succ fuel =>
      rw [List.cons_append, List.append_assoc, List.singleton_append]
      exact value_noItems ((skipSpace_append hw _).trans (skipSpace_cons rfl r)) fuel
  | @array vs t hitems ih =>
    intro fuel r hfuel _
    cases fuel with
    | zero => cases hfuel
    | succ fuel =>
      rw [List.length_cons, List.length_append, List.length_singleton] at hfuel
      obtain ⟨c, t', hskip, hc⟩ := hitems.opens
      have hne : c ≠ ']' := by
        rintro rfl
        cases hc
      rw [List.cons_append, List.append_assoc, List.singleton_append,
        value_array (skipSpace_append_of_cons hskip (']' :: r)) hne,
        ih fuel r (by omega)]
      rfl
  | noMembers hw =>
    intro fuel r hfuel _
    cases fuel with
    | zero => cases hfuel
    | succ fuel =>
      rw [List.cons_append, List.append_assoc, List.singleton_append]
      exact value_noMembers ((skipSpace_append hw _).trans (skipSpace_cons rfl r)) fuel
  | @object ms t hmembers ih =>
    intro fuel r hfuel _
    cases fuel with
    | zero => cases hfuel
    | succ fuel =>
      rw [List.length_cons, List.length_append, List.length_singleton] at hfuel
      obtain ⟨t', hskip⟩ := hmembers.opens
      rw [List.cons_append, List.append_assoc, List.singleton_append,
        value_object (skipSpace_append_of_cons hskip ('\x7d' :: r)) (by decide), ih fuel r (by omega)]
      rfl
  | @item v w t w' hw _ hw' ih =>
    intro fuel r hfuel
    cases fuel with
    | zero => cases hfuel
    | succ fuel =>
      simp only [List.length_append] at hfuel
      rw [List.append_assoc, List.append_assoc]
      have hread := ih fuel (w' ++ ']' :: r) (by omega) (stops_space hw' (stops_cons rfl r))
      exact items_last ((value_space hw _ fuel).trans hread)
        ((skipSpace_append hw' _).trans (skipSpace_cons rfl r))
  | @items v vs w t w' t' hw _ hw' _ ih ihs =>
    intro fuel r hfuel
    cases fuel with
    | zero => cases hfuel
    | succ fuel =>
      simp only [List.length_append, List.length_cons] at hfuel
      simp only [List.append_assoc, List.cons_append]
      have hread := ih fuel (w' ++ ',' :: (t' ++ ']' :: r)) (by omega)
        (stops_space hw' (stops_cons rfl _))
      rw [items_more ((value_space hw _ fuel).trans hread)
        ((skipSpace_append hw' _).trans (skipSpace_cons rfl _)), ihs fuel r (by omega)]
      rfl
  | @member k body v w w₁ w₂ t w' hw hk hw₁ hw₂ _ hw' ih =>
    intro fuel r hfuel
    cases fuel with
    | zero => cases hfuel
    | succ fuel =>
      simp only [List.length_append, List.length_cons] at hfuel
      simp only [List.append_assoc, List.cons_append]
      have hread := ih fuel (w' ++ '\x7d' :: r) (by omega) (stops_space hw' (stops_cons rfl r))
      exact members_last ((skipSpace_append hw _).trans (skipSpace_cons rfl _)) (string_chars hk _)
        ((skipSpace_append hw₁ _).trans (skipSpace_cons rfl _))
        ((value_space hw₂ _ fuel).trans hread)
        ((skipSpace_append hw' _).trans (skipSpace_cons rfl r))
  | @members k body v ms w w₁ w₂ t w' t' hw hk hw₁ hw₂ _ hw' _ ih ihs =>
    intro fuel r hfuel
    cases fuel with
    | zero => cases hfuel
    | succ fuel =>
      simp only [List.length_append, List.length_cons] at hfuel
      simp only [List.append_assoc, List.cons_append]
      have hread := ih fuel (w' ++ ',' :: (t' ++ '\x7d' :: r)) (by omega)
        (stops_space hw' (stops_cons rfl _))
      rw [members_more ((skipSpace_append hw _).trans (skipSpace_cons rfl _)) (string_chars hk _)
        ((skipSpace_append hw₁ _).trans (skipSpace_cons rfl _))
        ((value_space hw₂ _ fuel).trans hread)
        ((skipSpace_append hw' _).trans (skipSpace_cons rfl _)), ihs fuel r (by omega)]
      rfl

/-- A text of a value, with white space around it, is loaded as the value. -/
theorem loads_of_denotes {v : Value} {w t w' : Str} (hw : Space w) (h : Denotes (.value v) t)
    (hw' : Space w') : loads (w ++ (t ++ w')) = some v := by
  have hend : Stops w' := by
    have hnil : Stops [] := fun _ h => by cases h
    have hstop := stops_space hw' hnil
    rwa [List.append_nil] at hstop
  have hread := h.reads ((w ++ (t ++ w')).length + 1) w' (by simp; omega) hend
  have hskip : skipSpace w' = [] := List.dropWhile_eq_nil_iff.2 (List.all_eq_true.1 hw')
  rw [loads, value_space hw, hread]
  simp [hskip]

/-! ## Encoder -/

/-- What `json.dumps` writes for a character of a string. -/
def escapeChar (c : Char) : Str :=
  if c = '"' then ['\\', '"']
  else if c = '\\' then ['\\', '\\']
  else if c = '\n' then ['\\', 'n']
  else if c = '\r' then ['\\', 'r']
  else if c = '\t' then ['\\', 't']
  else if c.toNat = 12 then ['\\', 'f']
  else if c.toNat = 8 then ['\\', 'b']
  else if 0x20 ≤ c.toNat ∧ c.toNat ≤ 0x7e then [c]
  else (utf16 c).flatMap escapeUnit

/-- A string between quotation marks; `escape` is what is written for a character. -/
def quoteWith (escape : Char → Str) (s : Str) : Str :=
  '"' :: (s.flatMap escape ++ ['"'])

mutual

/-- `json.dumps(v)`. -/
def dumps : Value → Str
  | .null => "null".toList
  | .bool true => "true".toList
  | .bool false => "false".toList
  | .number n => n.text
  | .string s => quoteWith escapeChar s
  | .array vs => '[' :: (dumpsItems vs ++ [']'])
  | .object ms => '\x7b' :: (dumpsMembers ms ++ ['\x7d'])

def dumpsItems : List Value → Str
  | [] => []
  | [v] => dumps v
  | v :: vs => dumps v ++ ',' :: ' ' :: dumpsItems vs

def dumpsMembers : List (Str × Value) → Str
  | [] => []
  | [(k, v)] => quoteWith escapeChar k ++ ':' :: ' ' :: dumps v
  | (k, v) :: ms =>
    quoteWith escapeChar k ++ ':' :: ' ' :: (dumps v ++ ',' :: ' ' :: dumpsMembers ms)

end

lemma isDigit_toDigits (n : Nat) : ∀ c ∈ Nat.toDigits 10 n, c.isDigit = true :=
  fun _ hc => Nat.isDigit_of_mem_toDigits (by decide) (by decide) hc

/-- Only the number zero begins with a zero. -/
lemma head?_toDigits {n : Nat} (hn : n ≠ 0) : (Nat.toDigits 10 n).head? ≠ some '0' := by
  induction n using Nat.strong_induction_on with
  | _ n ih =>
    have hdigit : ∀ d < 10, d ≠ 0 → Nat.digitChar d ≠ '0' := by decide
    rw [Nat.toDigits_eq_if (by decide)]
    split
    · next hlt => exact fun h => hdigit n hlt hn (Option.some.inj h)
    · rw [List.head?_append_of_ne_nil _ Nat.toDigits_ne_nil]
      exact ih (n / 10) (by omega) (by omega)

lemma isNumber_toDigits (n : Nat) : isNumber (Nat.toDigits 10 n) = true := by
  have hint : isInt (Nat.toDigits 10 n) = true := by
    simp only [isInt, Bool.and_eq_true, Bool.or_eq_true, decide_eq_true_eq]
    refine ⟨Nat.toDigits_ne_nil, ?_⟩
    by_cases hn : n = 0
    · subst hn
      exact .inl rfl
    · exact .inr (head?_toDigits hn)
  have htake := List.takeWhile_eq_self_iff.2 (isDigit_toDigits n)
  have hdrop := List.dropWhile_eq_nil_iff.2 (isDigit_toDigits n)
  rw [isNumber.eq_def]
  split
  · next heq => exact absurd (isDigit_toDigits n '-' (heq ▸ List.mem_cons_self)) (by decide)
  · rw [htake, hdrop, hint]
    rfl

/-- A natural number. -/
def Number.ofNat (n : Nat) : Number where
  text := Nat.toDigits 10 n
  chars := List.all_eq_true.2 fun c hc => by simp [isNumberChar, isDigit_toDigits n c hc]
  valid := isNumber_toDigits n

/-- The natural number that is written. -/
def Number.toNat? (n : Number) : Option Nat :=
  if n.text.all Char.isDigit then some (Nat.ofDigitChars 10 n.text 0) else none

/-- What is written for a character is read as its code units. -/
def Escapes (escape : Char → Str) : Prop :=
  ∀ c us body, Chars us body → Chars (utf16 c ++ us) (escape c ++ body)

lemma hexValue_digitChar : ∀ n < 16, Percent.hexValue (Nat.digitChar n) = some n := by
  decide

lemma unitOf_digitChar {u : Nat} (hu : u < 0x10000) :
    unitOf (Nat.digitChar (u / 4096 % 16)) (Nat.digitChar (u / 256 % 16))
      (Nat.digitChar (u / 16 % 16)) (Nat.digitChar (u % 16)) = some u := by
  have hsum : u / 4096 % 16 * 4096 + u / 256 % 16 * 256 + u / 16 % 16 * 16 + u % 16 = u := by
    omega
  unfold unitOf
  simp only [hexValue_digitChar _ (Nat.mod_lt _ (by decide : 0 < 16)), Option.bind_eq_bind,
    Option.bind_some, hsum]
  rfl

lemma chars_escapeUnit {u : Nat} (hu : u < 0x10000) {us : List Nat} {body : Str}
    (h : Chars us body) : Chars (u :: us) (escapeUnit u ++ body) :=
  .unicode _ _ _ _ (unitOf_digitChar hu) h

/-- The units of any character may be written in hexadecimal. -/
lemma chars_escapeUnits (c : Char) {us : List Nat} {body : Str} (h : Chars us body) :
    Chars (utf16 c ++ us) ((utf16 c).flatMap escapeUnit ++ body) := by
  have hc := toNat_cases c
  unfold utf16
  split
  · next hlt =>
    rw [List.flatMap_singleton]
    exact chars_escapeUnit hlt h
  · rw [List.flatMap_cons, List.flatMap_singleton, List.append_assoc]
    exact chars_escapeUnit (by omega) (chars_escapeUnit (by omega) h)

lemma utf16_ascii {c : Char} (h : c.toNat < 0x10000) : utf16 c = [c.toNat] :=
  if_pos h

lemma escapes_escapeChar : Escapes escapeChar := by
  intro c us body h
  unfold escapeChar
  split_ifs with hq hb hn hr ht hf h8 hplain
  · subst hq
    exact .escape _ rfl h
  · subst hb
    exact .escape _ rfl h
  · subst hn
    exact .escape _ rfl h
  · subst hr
    exact .escape _ rfl h
  · subst ht
    exact .escape _ rfl h
  · rw [utf16_ascii (by omega), hf]
    exact .escape 'f' rfl h
  · rw [utf16_ascii (by omega), h8]
    exact .escape 'b' rfl h
  · exact .plain c hq hb hplain.1 h
  · exact chars_escapeUnits c h

lemma Escapes.chars {escape : Char → Str} (h : Escapes escape) (s : Str) :
    Chars (s.flatMap utf16) (s.flatMap escape) := by
  induction s with
  | nil => exact .nil
  | cons c s ih => exact h c _ _ ih

lemma Escapes.denotes {escape : Char → Str} (h : Escapes escape) (s : Str) :
    Denotes (.value (.string s)) (quoteWith escape s) :=
  .string (h.chars s)

lemma toNat?_ofNat (n : Nat) : (Number.ofNat n).toNat? = some n := by
  have hall : (Number.ofNat n).text.all Char.isDigit = true :=
    List.all_eq_true.2 (isDigit_toDigits n)
  rw [Number.toNat?, if_pos hall]
  exact congrArg some Nat.ofDigitChars_ten_toDigits

lemma space_blank : Space [' '] := rfl

lemma space_nil : Space [] := rfl

lemma Space.append {w w' : Str} (h : Space w) (h' : Space w') : Space (w ++ w') := by
  rw [Space, List.all_append, h, h']
  rfl

/-- White space may stand before the first item. -/
lemma Denotes.space_items {vs : List Value} {w t : Str} (hw : Space w)
    (h : Denotes (.items vs) t) : Denotes (.items vs) (w ++ t) := by
  cases h with
  | item hw₀ hv hw' =>
    rw [← List.append_assoc]
    exact .item (hw.append hw₀) hv hw'
  | items hw₀ hv hw' hvs =>
    rw [← List.append_assoc]
    exact .items (hw.append hw₀) hv hw' hvs

lemma Denotes.space_members {ms : List (Str × Value)} {w t : Str} (hw : Space w)
    (h : Denotes (.members ms) t) : Denotes (.members ms) (w ++ t) := by
  cases h with
  | member hw₀ hk hw₁ hw₂ hv hw' =>
    rw [← List.append_assoc]
    exact .member (hw.append hw₀) hk hw₁ hw₂ hv hw'
  | members hw₀ hk hw₁ hw₂ hv hw' hms =>
    rw [← List.append_assoc]
    exact .members (hw.append hw₀) hk hw₁ hw₂ hv hw' hms

/-- A member whose name is quoted. -/
lemma Escapes.member {escape : Char → Str} (h : Escapes escape) {k w t w' : Str} {v : Value}
    (hw : Space w) (hv : Denotes (.value v) t) (hw' : Space w') :
    Denotes (.members [(k, v)]) (w ++ (quoteWith escape k ++ ':' :: ' ' :: (t ++ w'))) := by
  have hmember := Denotes.member hw (h.chars k) space_nil space_blank hv hw'
  simpa [quoteWith] using hmember

lemma Escapes.members {escape : Char → Str} (h : Escapes escape) {k w t w' t' : Str} {v : Value}
    {ms : List (Str × Value)} (hw : Space w) (hv : Denotes (.value v) t) (hw' : Space w')
    (hms : Denotes (.members ms) t') :
    Denotes (.members ((k, v) :: ms))
      (w ++ (quoteWith escape k ++ ':' :: ' ' :: (t ++ (w' ++ ',' :: t')))) := by
  have hmembers := Denotes.members hw (h.chars k) space_nil space_blank hv hw' hms
  simpa [quoteWith] using hmembers

lemma Denotes.array_of {vs : List Value}
    (h : vs ≠ [] → Denotes (.items vs) (dumpsItems vs)) :
    Denotes (.value (.array vs)) (dumps (.array vs)) := by
  cases vs with
  | nil => exact .noItems space_nil
  | cons v vs => exact .array (h (List.cons_ne_nil v vs))

lemma Denotes.object_of {ms : List (Str × Value)}
    (h : ms ≠ [] → Denotes (.members ms) (dumpsMembers ms)) :
    Denotes (.value (.object ms)) (dumps (.object ms)) := by
  cases ms with
  | nil => exact .noMembers space_nil
  | cons m ms => exact .object (h (List.cons_ne_nil m ms))

mutual

/-- The encoder writes what the grammar derives. -/
theorem denotes_dumps : ∀ v : Value, Denotes (.value v) (dumps v)
  | .null => .null
  | .bool true => .true
  | .bool false => .false
  | .number n => .number n
  | .string s => escapes_escapeChar.denotes s
  | .array vs => .array_of (denotes_dumpsItems vs)
  | .object ms => .object_of (denotes_dumpsMembers ms)

theorem denotes_dumpsItems : ∀ vs : List Value, vs ≠ [] → Denotes (.items vs) (dumpsItems vs)
  | [], h => absurd rfl h
  | [v], _ => by
    have h := Denotes.item space_nil (denotes_dumps v) space_nil
    rwa [List.nil_append, List.append_nil] at h
  | v :: v' :: vs, _ =>
    .items space_nil (denotes_dumps v) space_nil
      (.space_items space_blank (denotes_dumpsItems (v' :: vs) (List.cons_ne_nil _ _)))

theorem denotes_dumpsMembers : ∀ ms : List (Str × Value), ms ≠ [] →
    Denotes (.members ms) (dumpsMembers ms)
  | [], h => absurd rfl h
  | [(k, v)], _ => by
    have h := escapes_escapeChar.member (k := k) space_nil (denotes_dumps v) space_nil
    rwa [List.nil_append, List.append_nil] at h
  | (_, v) :: m :: ms, _ =>
    escapes_escapeChar.members space_nil (denotes_dumps v) space_nil
      (.space_members space_blank (denotes_dumpsMembers (m :: ms) (List.cons_ne_nil _ _)))

end

/-- What is dumped is loaded again. -/
theorem loads_dumps (v : Value) : loads (dumps v) = some v := by
  have h := loads_of_denotes space_nil (denotes_dumps v) space_nil
  rwa [List.nil_append, List.append_nil] at h

/-! ### Characters -/

/-- ASCII without control characters. -/
def isPrintable (c : Char) : Bool :=
  0x20 ≤ c.toNat && c.toNat ≤ 0x7e

lemma printable_number (n : Number) : n.text.all isPrintable = true := by
  apply List.all_eq_true.2
  intro c hc
  have hchar := List.all_eq_true.1 n.chars c hc
  simp only [isNumberChar, Bool.or_eq_true, decide_eq_true_eq] at hchar
  rcases hchar with ((((hd | rfl) | rfl) | rfl) | rfl) | rfl
  · obtain ⟨hlo, hhi⟩ := Char.isDigit_iff_toNat.1 hd
    have hlo : 0x20 ≤ c.toNat := le_trans (by decide) hlo
    have hhi : c.toNat ≤ 0x7e := le_trans hhi (by decide)
    rw [isPrintable, decide_eq_true hlo, decide_eq_true hhi]
    rfl
  all_goals rfl

lemma printable_escapeUnit (u : Nat) : (escapeUnit u).all isPrintable = true := by
  have hdigit : ∀ d < 16, isPrintable (Nat.digitChar d) = true := by decide
  simp only [escapeUnit, List.all_cons, List.all_nil, hdigit _ (Nat.mod_lt _ (by decide : 0 < 16))]
  rfl

lemma printable_escapeChar (c : Char) : (escapeChar c).all isPrintable = true := by
  unfold escapeChar
  split_ifs with hq hb hn hr ht hf h8 hplain
  any_goals rfl
  · rw [List.all_cons, isPrintable, decide_eq_true hplain.1, decide_eq_true hplain.2]
    rfl
  · rw [List.all_flatMap]
    exact List.all_eq_true.2 fun u _ => printable_escapeUnit u

lemma printable_quoteWith (s : Str) : (quoteWith escapeChar s).all isPrintable = true := by
  have hbody : (s.flatMap escapeChar).all isPrintable = true := by
    rw [List.all_flatMap]
    exact List.all_eq_true.2 fun c _ => printable_escapeChar c
  simp [quoteWith, List.all_append, hbody, isPrintable]

mutual

/-- The encoder writes printable ASCII. -/
theorem printable_dumps : ∀ v : Value, (dumps v).all isPrintable = true
  | .null => rfl
  | .bool true => rfl
  | .bool false => rfl
  | .number n => printable_number n
  | .string s => printable_quoteWith s
  | .array vs => by
    have h := printable_dumpsItems vs
    simp [dumps, List.all_append, h, isPrintable]
  | .object ms => by
    have h := printable_dumpsMembers ms
    simp [dumps, List.all_append, h, isPrintable]

theorem printable_dumpsItems : ∀ vs : List Value, (dumpsItems vs).all isPrintable = true
  | [] => rfl
  | [v] => printable_dumps v
  | v :: v' :: vs => by
    have hv := printable_dumps v
    have hvs := printable_dumpsItems (v' :: vs)
    simp [dumpsItems, List.all_append, hv, hvs, isPrintable]

theorem printable_dumpsMembers : ∀ ms : List (Str × Value),
    (dumpsMembers ms).all isPrintable = true
  | [] => rfl
  | [(k, v)] => by
    have hk := printable_quoteWith k
    have hv := printable_dumps v
    simp [dumpsMembers, List.all_append, hk, hv, isPrintable]
  | (k, v) :: m :: ms => by
    have hk := printable_quoteWith k
    have hv := printable_dumps v
    have hms := printable_dumpsMembers (m :: ms)
    simp [dumpsMembers, List.all_append, hk, hv, hms, isPrintable]

end

end Json
