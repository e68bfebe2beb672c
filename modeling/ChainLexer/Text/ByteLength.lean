/-!
# Byte lengths and byte offsets of text

Texts are lists of characters here, and offsets into them count the bytes of their UTF-8 form. An
offset is a boundary when it does not fall inside a character; a text is cut at boundaries only.

## Main definitions

* `byteLength`: the number of bytes of a text
* `splitBytes?`: the two halves of a text at a byte offset that is a boundary
* `IsBoundary`: the byte offset does not fall inside a character, nor beyond the end
* `sliceBytes?`: the text between two byte offsets

## Main results

* `splitBytes?_append`: a text cut where a part of it ends gives the two parts
* `append_of_splitBytes?`: the two halves make up the text, and the first ends at the offset
-/

namespace ChainLexer.Text

/-- The number of bytes of a text in UTF-8. -/
def byteLength : List Char → Nat
  | [] => 0
  | c :: cs => c.utf8Size + byteLength cs

@[simp] theorem byteLength_nil : byteLength [] = 0 := rfl

@[simp] theorem byteLength_cons (c : Char) (cs : List Char) :
    byteLength (c :: cs) = c.utf8Size + byteLength cs := rfl

@[simp] theorem byteLength_append (xs ys : List Char) :
    byteLength (xs ++ ys) = byteLength xs + byteLength ys := by
  induction xs with
  | nil => simp
  | cons c cs ih => simp [ih, Nat.add_assoc]

/-- Every character takes at least one byte. -/
theorem length_le_byteLength (cs : List Char) : cs.length ≤ byteLength cs := by
  induction cs with
  | nil => simp
  | cons c cs ih =>
    have := c.utf8Size_pos
    simp only [List.length_cons, byteLength_cons]
    omega

/-- The two halves of a text at a byte offset, or `none` when the offset falls inside a character or
beyond the end. -/
def splitBytes? : List Char → Nat → Option (List Char × List Char)
  | [], n => if n = 0 then some ([], []) else none
  | c :: cs, n =>
    if n = 0 then some ([], c :: cs)
    else if c.utf8Size ≤ n then
      (splitBytes? cs (n - c.utf8Size)).map fun halves => (c :: halves.1, halves.2)
    else none

@[simp] theorem splitBytes?_zero (cs : List Char) : splitBytes? cs 0 = some ([], cs) := by
  cases cs <;> simp [splitBytes?]

/-- A text cut where a part of it ends gives the two parts. -/
theorem splitBytes?_append (xs ys : List Char) :
    splitBytes? (xs ++ ys) (byteLength xs) = some (xs, ys) := by
  induction xs with
  | nil => simp
  | cons c cs ih =>
    have := c.utf8Size_pos
    have hne : ¬c.utf8Size + byteLength cs = 0 := by omega
    simp only [List.cons_append, byteLength_cons, splitBytes?, if_neg hne]
    simp [ih]

/-- The two halves make up the text, and the first half ends at the offset. -/
theorem append_of_splitBytes? {cs xs ys : List Char} {n : Nat}
    (h : splitBytes? cs n = some (xs, ys)) : xs ++ ys = cs ∧ byteLength xs = n := by
  induction cs generalizing n xs with
  | nil =>
    by_cases hn : n = 0
    · simp_all [splitBytes?]
    · simp [splitBytes?, hn] at h
  | cons c cs ih =>
    by_cases hn : n = 0
    · simp_all [splitBytes?]
    · by_cases hc : c.utf8Size ≤ n
      · simp only [splitBytes?, hn, hc, if_false, if_true, Option.map_eq_some_iff] at h
        obtain ⟨⟨xs', ys'⟩, hsplit, heq⟩ := h
        obtain ⟨rfl, rfl⟩ := Prod.mk.inj heq
        obtain ⟨rfl, hlen⟩ := ih hsplit
        exact ⟨rfl, by simp only [byteLength_cons, hlen]; omega⟩
      · simp [splitBytes?, hn, hc] at h

/-- The byte offset is the end of some leading part of the text. -/
def IsBoundary (cs : List Char) (n : Nat) : Prop :=
  (splitBytes? cs n).isSome

instance (cs : List Char) (n : Nat) : Decidable (IsBoundary cs n) :=
  inferInstanceAs (Decidable ((splitBytes? cs n).isSome = true))

/-- The text from byte offset `a` up to byte offset `b`, when these are boundaries in this order. -/
def sliceBytes? (cs : List Char) (a b : Nat) : Option (List Char) :=
  if a ≤ b then
    (splitBytes? cs a).bind fun halves => (splitBytes? halves.2 (b - a)).map Prod.fst
  else none

end ChainLexer.Text
