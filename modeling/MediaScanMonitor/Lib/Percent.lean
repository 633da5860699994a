import MediaScanMonitor.Lib.Text

/-!
# Percent encoding

The percent encoding of RFC 3986 and `urllib.parse.quote`. Encoding writes the UTF-8 bytes of a text
that are not safe as `%XX`. Decoding reads every `%` that two hexadecimal digits follow as a byte,
and everything else as it is, so that it undoes the encoding, and leaves a text alone that was not
encoded exactly when nothing in it looks as if it were.
-/

namespace Percent
open Text

/-- `s.encode()`. -/
def utf8 (s : Str) : List UInt8 :=
  s.flatMap String.utf8EncodeChar

/-! ## Encoding -/

/-- An upper-case hexadecimal digit. -/
def hexDigit (n : Nat) : Char :=
  if n < 10 then Char.ofNat (48 + n) else Char.ofNat (55 + n)

/-- A byte that `quote(…, safe=safe)` does not encode. -/
def isSafe (safe : Str) (b : UInt8) : Bool :=
  b.toNat < 128 && ((Char.ofNat b.toNat).isAlphanum || Char.ofNat b.toNat ∈ "_.-~".toList ||
    Char.ofNat b.toNat ∈ safe)

/-- What is written for a byte. -/
def quoteByte (safe : Str) (b : UInt8) : Str :=
  if isSafe safe b then [Char.ofNat b.toNat]
  else ['%', hexDigit (b.toNat / 16), hexDigit (b.toNat % 16)]

/-- `quote(s, safe=safe)`. -/
def quote (safe s : Str) : Str :=
  (utf8 s).flatMap (quoteByte safe)

/-! ## Decoding -/

def hexValue (c : Char) : Option Nat :=
  if 48 ≤ c.toNat ∧ c.toNat ≤ 57 then some (c.toNat - 48)
  else if 65 ≤ c.toNat ∧ c.toNat ≤ 70 then some (c.toNat - 55)
  else if 97 ≤ c.toNat ∧ c.toNat ≤ 102 then some (c.toNat - 87)
  else none

/-- The byte that three characters encode. -/
def escaped (c hi lo : Char) : Option UInt8 :=
  if c = '%' then
    (hexValue hi).bind fun x => (hexValue lo).map fun y => (16 * x + y).toUInt8
  else none

/-- The bytes of a percent-encoded text. -/
def decode : Str → List UInt8
  | c :: hi :: lo :: rest =>
    match escaped c hi lo with
    | some b => b :: decode rest
    | none => String.utf8EncodeChar c ++ decode (hi :: lo :: rest)
  | s => utf8 s

/-- A `%` is followed by two hexadecimal digits somewhere. -/
def hasEscape : Str → Bool
  | c :: hi :: lo :: rest => (escaped c hi lo).isSome || hasEscape (hi :: lo :: rest)
  | _ => false

variable {s t safe : Str} {c : Char} {b : UInt8}

lemma utf8_append (s t : Str) : utf8 (s ++ t) = utf8 s ++ utf8 t :=
  List.flatMap_append

lemma utf8_cons (c : Char) (s : Str) : utf8 (c :: s) = String.utf8EncodeChar c ++ utf8 s :=
  List.flatMap_cons

lemma utf8_pos (c : Char) : 0 < (String.utf8EncodeChar c).length :=
  List.length_pos_iff.2 String.utf8EncodeChar_ne_nil

/-- A character in front is decoded as it is, unless it is a `%`. -/
lemma decode_cons (h : c ≠ '%') (t : Str) : decode (c :: t) = String.utf8EncodeChar c ++ decode t := by
  have hnone : ∀ hi lo, escaped c hi lo = none := fun hi lo => if_neg h
  match t with
  | [] => exact List.flatMap_cons
  | [hi] => exact List.flatMap_cons
  | hi :: lo :: rest =>
    rw [decode, hnone]

/-! ### Round trip -/

lemma hexValue_hexDigit : ∀ n < 16, hexValue (hexDigit n) = some n := by
  decide

lemma utf8EncodeChar_ascii : ∀ n < 128, String.utf8EncodeChar (Char.ofNat n) = [n.toUInt8] := by
  decide

lemma escaped_hexDigit (b : UInt8) :
    escaped '%' (hexDigit (b.toNat / 16)) (hexDigit (b.toNat % 16)) = some b := by
  have hlt := b.toNat_lt
  rw [escaped, if_pos rfl, hexValue_hexDigit _ (by omega), hexValue_hexDigit _ (by omega)]
  show some (16 * (b.toNat / 16) + b.toNat % 16).toUInt8 = some b
  rw [Nat.div_add_mod]
  exact congrArg some (UInt8.ofNat_toNat)

/-- An encoded byte is decoded to it. -/
lemma decode_quoteByte (hsafe : '%' ∉ safe) (b : UInt8) (t : Str) :
    decode (quoteByte safe b ++ t) = b :: decode t := by
  unfold quoteByte
  split
  · next h =>
    obtain ⟨hlt, hchar⟩ := Bool.and_eq_true_iff.1 h
    have hlt := of_decide_eq_true hlt
    have hne : Char.ofNat b.toNat ≠ '%' := by
      intro he
      rw [he] at hchar
      simp [hsafe] at hchar
    rw [List.singleton_append, decode_cons hne, utf8EncodeChar_ascii _ hlt]
    show b.toNat.toUInt8 :: decode t = b :: decode t
    rw [show b.toNat.toUInt8 = b from UInt8.ofNat_toNat]
  · rw [List.cons_append, List.cons_append, List.singleton_append, decode, escaped_hexDigit]

/-- Decoding undoes the encoding. -/
theorem decode_quote (hsafe : '%' ∉ safe) (s : Str) : decode (quote safe s) = utf8 s := by
  unfold quote
  induction utf8 s with
  | nil => rfl
  | cons b bs ih => rw [List.flatMap_cons, decode_quoteByte hsafe, ih]

/-- The characters of an encoded text. -/
lemma mem_quote (h : c ∈ quote safe s) : c.isAlphanum = true ∨ c ∈ "_.-~%".toList ∨ c ∈ safe := by
  obtain ⟨b, -, hc⟩ := List.mem_flatMap.1 h
  have hdigit : ∀ n < 16, (hexDigit n).isAlphanum = true := by decide
  have hlt := b.toNat_lt
  unfold quoteByte at hc
  split at hc
  · next hsafe =>
    rw [List.mem_singleton.1 hc]
    rcases Bool.or_eq_true_iff.1 (Bool.and_eq_true_iff.1 hsafe).2 with halways | hmem
    · rcases Bool.or_eq_true_iff.1 halways with halnum | hmark
      · exact .inl halnum
      · exact .inr (.inl (List.mem_append_left ['%'] (of_decide_eq_true hmark)))
    · exact .inr (.inr (of_decide_eq_true hmem))
  · simp only [List.mem_cons, List.not_mem_nil, or_false] at hc
    rcases hc with rfl | rfl | rfl
    · exact .inr (.inl (by decide))
    · exact .inl (hdigit _ (by omega))
    · exact .inl (hdigit _ (by omega))

/-! ### Texts that were not encoded -/

/-- Decoding makes no text longer. -/
lemma length_decode_le (s : Str) : (decode s).length ≤ (utf8 s).length := by
  induction s using decode.induct with
  | case1 c hi lo rest b h ih =>
    rw [decode, h, utf8_cons, utf8_cons, utf8_cons]
    have hc := utf8_pos c
    simp only [List.length_cons, List.length_append]
    omega
  | case2 c hi lo rest h ih =>
    rw [decode, h, utf8_cons]
    simp only [List.length_append]
    omega
  | case3 s h =>
    rw [decode]
    exact h

/-- A text decodes to itself exactly when there is no escape in it. -/
theorem decode_eq_self_iff : decode s = utf8 s ↔ hasEscape s = false := by
  induction s using decode.induct with
  | case1 c hi lo rest b h ih =>
    rw [decode, hasEscape, h]
    refine iff_of_false (fun he => ?_) (fun he => by cases he)
    have hlen := congrArg List.length he
    have hle := length_decode_le rest
    have hc := utf8_pos c
    have hhi := utf8_pos hi
    rw [utf8_cons, utf8_cons, utf8_cons] at hlen
    simp only [List.length_cons, List.length_append] at hlen
    omega
  | case2 c hi lo rest h ih =>
    rw [decode, hasEscape, h, utf8_cons, Option.isSome_none, Bool.false_or]
    exact (List.append_right_inj _).trans ih
  | case3 s h =>
    rw [decode, hasEscape]
    · exact iff_of_true rfl rfl
    · exact h
    · exact h

end Percent
