import ChainLexer.Proofs.Places
import Mathlib.Data.List.DropRight

/-!
# Positions by counting

A line table finds the line of an offset by a binary search over the line starts, and the column by
cutting the source from there to the offset. The definition of a position needs neither: the line is
one more than the number of line feeds before the offset, and the column one more than the number of
characters after the last of them. This module proves that the two agree, and that nothing can go
wrong on the way to the answer.

## Where the search could go wrong

A search that misses gives the number of lines that start before the offset, and the line in question
is the last of these. There must be one, since in natural numbers `0 - 1` is `0` and no failure would
show: this is `LineTable.pos_of_search_eq_error`. It holds because the first line starts at `0`, and a
search for `0` does not miss.

The cut has to be made at two boundaries in the right order, or there is no text between them. The
line start is a boundary because a line feed ends there, and `LineTable.exists_slice` gives the text.

## Main definitions

* `FallsInside`: a byte offset inside a character
* `lastLine`: the characters of a text after its last line feed
* `LineTable.Finds`: what a search may answer
* `LineTable.Holds`: the line that holds an offset
* `LineTable.AgreesWithCounting`: the positions of a table are those of the definition

## Main results

* `fallsInside_iff`: of the offsets up to the end, those inside a character are no boundaries
* `startsAfterNewlines_append`: line starts of a text in two parts
* `LineTable.finds_search`: a search over ascending line starts finds what there is to find
* `LineTable.lineOf_ofString`: the line of an offset is the number of line feeds before it
* `LineTable.position_append`: the position of an offset by counting
* `LineTable.agreesWithCounting_ofString`: the line table agrees with the definition at every offset
-/

namespace ChainLexer.Text

/-! ### Offsets inside characters -/

/-- The byte offset falls inside a character of the text. -/
def FallsInside (cs : List Char) (n : Nat) : Prop :=
  ∃ before c after, cs = before ++ c :: after ∧ byteLength before < n ∧
    n < byteLength before + c.utf8Size

theorem isBoundary_iff {cs : List Char} {n : Nat} :
    IsBoundary cs n ↔ ∃ before after, cs = before ++ after ∧ n = byteLength before := by
  constructor
  · intro h
    obtain ⟨⟨before, after⟩, hsplit⟩ := Option.isSome_iff_exists.1 h
    obtain ⟨hcs, hn⟩ := append_of_splitBytes? hsplit
    exact ⟨before, after, hcs.symm, hn.symm⟩
  · rintro ⟨before, after, rfl, rfl⟩
    rw [IsBoundary, splitBytes?_append]
    rfl

/-- Between the boundaries before and after a character there is no other one. -/
theorem FallsInside.not_isBoundary {cs : List Char} {n : Nat} (h : FallsInside cs n) :
    ¬IsBoundary cs n := by
  obtain ⟨before, c, after, rfl, hlo, hhi⟩ := h
  rw [isBoundary_iff]
  rintro ⟨xs, ys, heq, rfl⟩
  rcases List.append_eq_append_iff.1 heq with ⟨more, rfl, hmore⟩ | ⟨more, rfl, -⟩
  · cases more with
    | nil => simp at hlo
    | cons d more =>
      obtain ⟨rfl, -⟩ := List.cons.inj hmore
      rw [byteLength_append, byteLength_cons] at hhi
      omega
  · rw [byteLength_append] at hlo
    omega

theorem exists_of_not_isBoundary {cs : List Char} {n : Nat} (hle : n ≤ byteLength cs)
    (h : ¬IsBoundary cs n) : FallsInside cs n := by
  induction cs generalizing n with
  | nil =>
    obtain rfl : n = 0 := by simpa using hle
    exact absurd (isBoundary_iff.2 ⟨[], [], rfl, rfl⟩) h
  | cons c cs ih =>
    have hpos : 0 < n := by
      rw [Nat.pos_iff_ne_zero]
      rintro rfl
      exact h (isBoundary_iff.2 ⟨[], c :: cs, rfl, rfl⟩)
    by_cases hc : n < c.utf8Size
    · exact ⟨[], c, cs, rfl, hpos, by simpa using hc⟩
    · rw [byteLength_cons] at hle
      have hrest : ¬IsBoundary cs (n - c.utf8Size) := by
        rw [isBoundary_iff]
        rintro ⟨before, after, rfl, hn⟩
        refine h (isBoundary_iff.2 ⟨c :: before, after, rfl, ?_⟩)
        rw [byteLength_cons]
        omega
      obtain ⟨before, d, after, rfl, hlo, hhi⟩ := ih (by omega) hrest
      refine ⟨c :: before, d, after, rfl, ?_, ?_⟩
      · rw [byteLength_cons]
        omega
      · rw [byteLength_cons]
        omega

/-- **Of the offsets up to the end of a text, those inside a character are no boundaries.** -/
theorem fallsInside_iff {cs : List Char} {n : Nat} (hle : n ≤ byteLength cs) :
    FallsInside cs n ↔ ¬IsBoundary cs n :=
  ⟨FallsInside.not_isBoundary, exists_of_not_isBoundary hle⟩

/-! ### The last line of a text -/

/-- The characters of a text after its last line feed, or all of them if it has none. -/
def lastLine (cs : List Char) : List Char := cs.rtakeWhile (· != '\n')

/-- The characters of a text up to its last line feed. -/
def earlierLines (cs : List Char) : List Char := cs.rdropWhile (· != '\n')

theorem earlierLines_append_lastLine (cs : List Char) : earlierLines cs ++ lastLine cs = cs := by
  rw [earlierLines, lastLine, List.rdropWhile, List.rtakeWhile, ← List.reverse_append,
    List.takeWhile_append_dropWhile, List.reverse_reverse]

theorem earlierLines_concat_newline (cs : List Char) :
    earlierLines (cs ++ ['\n']) = cs ++ ['\n'] := by
  rw [earlierLines, List.rdropWhile_concat_neg _ _ _ (by simp)]

theorem earlierLines_concat_of_ne (cs : List Char) {c : Char} (hc : c ≠ '\n') :
    earlierLines (cs ++ [c]) = earlierLines cs := by
  rw [earlierLines, List.rdropWhile_concat_pos _ _ _ (by simpa using hc), earlierLines]

end ChainLexer.Text

namespace ChainLexer.Source

open ChainLexer.Text

/-! ### Line starts -/

/-- **Line starts of a text in two parts.** -/
theorem startsAfterNewlines_append (n : Nat) (xs ys : List Char) :
    startsAfterNewlines n (xs ++ ys) =
      startsAfterNewlines n xs ++ startsAfterNewlines (n + byteLength xs) ys := by
  induction xs generalizing n with
  | nil => rfl
  | cons c xs ih =>
    rw [List.cons_append, startsAfterNewlines, startsAfterNewlines, byteLength_cons, ← Nat.add_assoc]
    simp only [ih]
    split <;> rfl

theorem length_startsAfterNewlines (n : Nat) (cs : List Char) :
    (startsAfterNewlines n cs).length = cs.count '\n' := by
  induction cs generalizing n with
  | nil => rfl
  | cons c cs ih =>
    rw [startsAfterNewlines, List.count_cons]
    by_cases hc : c = '\n' <;> simp [hc, ih]

/-- Lines start after the beginning of the text, and no later than at its end. -/
theorem bounds_of_mem_startsAfterNewlines {n start : Nat} {cs : List Char}
    (h : start ∈ startsAfterNewlines n cs) : n < start ∧ start ≤ n + byteLength cs := by
  induction cs generalizing n with
  | nil => cases h
  | cons c cs ih =>
    have hpos := c.utf8Size_pos
    have hrest : start ∈ startsAfterNewlines (n + c.utf8Size) cs →
        n < start ∧ start ≤ n + byteLength (c :: cs) := by
      intro hmem
      have := ih hmem
      rw [byteLength_cons]
      omega
    rw [startsAfterNewlines] at h
    split at h
    · rcases List.mem_cons.1 h with rfl | h
      · rw [byteLength_cons]
        omega
      · exact hrest h
    · exact hrest h

/-- Line starts ascend. -/
theorem pairwise_startsAfterNewlines (n : Nat) (cs : List Char) :
    (startsAfterNewlines n cs).Pairwise (· < ·) := by
  induction cs generalizing n with
  | nil => exact .nil
  | cons c cs ih =>
    rw [startsAfterNewlines]
    split
    · exact .cons (fun start hstart => (bounds_of_mem_startsAfterNewlines hstart).1) (ih _)
    · exact ih _

/-- The last line of a text starts behind the earlier ones. -/
theorem getElem?_cons_startsAfterNewlines (n : Nat) (cs : List Char) :
    (n :: startsAfterNewlines n cs)[cs.count '\n']? = some (n + byteLength (earlierLines cs)) := by
  induction cs using List.reverseRecOn with
  | nil => rfl
  | append_singleton cs c ih =>
    rw [startsAfterNewlines_append, List.count_append, ← List.cons_append]
    by_cases hc : c = '\n'
    · subst hc
      have hlength : (n :: startsAfterNewlines n cs).length = cs.count '\n' + 1 := by
        rw [List.length_cons, length_startsAfterNewlines]
      rw [earlierLines_concat_newline, List.getElem?_append_right (by simp [hlength]), hlength]
      simp [startsAfterNewlines, Nat.add_assoc]
    · rw [earlierLines_concat_of_ne cs hc, List.count_singleton, if_neg (by simpa using hc),
        Nat.add_zero]
      simpa [startsAfterNewlines, hc] using ih

/-- Positions with the same numbers are the same. -/
theorem Position.eq_of_toNat_eq {p q : Position} (hline : p.line.toNat = q.line.toNat)
    (hcolumn : p.column.toNat = q.column.toNat) : p = q := by
  cases p
  cases q
  rw [Position.mk.injEq]
  exact ⟨UInt32.toNat_inj.1 hline, UInt32.toNat_inj.1 hcolumn⟩

theorem toNat_toUInt32_add_one {n : Nat} (h : n < UInt32.size - 1) :
    (n.toUInt32 + 1).toNat = n + 1 := by
  have hsize : UInt32.size = 2 ^ 32 := rfl
  rw [UInt32.toNat_add]
  show (n % 2 ^ 32 + 1) % 2 ^ 32 = n + 1
  omega

namespace LineTable

variable {starts : Array Nat} {offset lo hi : Nat}

/-! ### The search -/

/-- The lines below `lo` start before the offset, and those from `hi` on after it. -/
structure Narrows (starts : Array Nat) (offset lo hi : Nat) : Prop where
  lo_le_hi : lo ≤ hi
  hi_le_size : hi ≤ starts.size
  below : ∀ i start, i < lo → starts[i]? = some start → start < offset
  above : ∀ i start, hi ≤ i → starts[i]? = some start → offset < start

/-- What a search may answer: the place of a line that starts at the offset, or else the place that
divides the lines that start before the offset from those that start after it. -/
def Finds (starts : Array Nat) (offset : Nat) : Except Nat Nat → Prop
  | .ok line => starts[line]? = some offset
  | .error next => Narrows starts offset next next

/-- The line starts at the offset or before, and no later line does. -/
structure Holds (starts : Array Nat) (offset line : Nat) : Prop where
  starts_le : ∃ start, starts[line]? = some start ∧ start ≤ offset
  later : ∀ i start, line < i → starts[i]? = some start → offset < start

/-- Every offset is held by one line. -/
theorem Holds.unique {line line' : Nat} (h : Holds starts offset line)
    (h' : Holds starts offset line') : line = line' := by
  obtain ⟨start, hstart, hle⟩ := h.starts_le
  obtain ⟨start', hstart', hle'⟩ := h'.starts_le
  rcases Nat.lt_trichotomy line line' with hlt | heq | hgt
  · have := h.later line' start' hlt hstart'
    omega
  · exact heq
  · have := h'.later line start hgt hstart
    omega

/-- **A search over ascending line starts finds what there is to find.** The induction is on the
search, and the window between `lo` and `hi` carries it. -/
theorem finds_search (hstarts : starts.toList.Pairwise (· < ·)) (h : Narrows starts offset lo hi) :
    Finds starts offset (search starts offset lo hi) := by
  have hlt : ∀ i j a b : Nat, i < j → starts[i]? = some a → starts[j]? = some b → a < b := by
    intro i j a b hij ha hb
    obtain ⟨hi, rfl⟩ := Array.getElem?_eq_some_iff.1 ha
    obtain ⟨hj, rfl⟩ := Array.getElem?_eq_some_iff.1 hb
    exact List.pairwise_iff_getElem.1 hstarts i j hi hj hij
  fun_induction search starts offset lo hi with
  | case1 lo hi hwindow mid hmid =>
    have hsize : mid < starts.size := by have := h.hi_le_size; omega
    rw [Array.getD_eq_getD_getElem?, Array.getElem?_eq_getElem hsize] at hmid
    exact (Array.getElem?_eq_getElem hsize).trans (congrArg some hmid)
  | case2 lo hi hwindow mid hne hmid ih =>
    have hsize : mid < starts.size := by have := h.hi_le_size; omega
    have hread := Array.getElem?_eq_getElem hsize
    rw [Array.getD_eq_getD_getElem?, hread, Option.getD_some] at hmid
    refine ih ⟨by omega, h.hi_le_size, fun i start hi hstart => ?_, h.above⟩
    rcases Nat.lt_or_eq_of_le (Nat.lt_succ_iff.1 hi) with hi | rfl
    · exact (hlt i mid _ _ hi hstart hread).trans hmid
    · rw [hread] at hstart
      exact Option.some.inj hstart ▸ hmid
  | case3 lo hi hwindow mid hne hmid ih =>
    have hsize : mid < starts.size := by have := h.hi_le_size; omega
    have hread := Array.getElem?_eq_getElem hsize
    rw [Array.getD_eq_getD_getElem?, hread, Option.getD_some] at hne hmid
    have hgt : offset < starts[mid] := by omega
    refine ih ⟨by omega, hsize.le, h.below, fun i start hi hstart => ?_⟩
    rcases Nat.lt_or_eq_of_le hi with hi | rfl
    · exact hgt.trans (hlt mid i _ _ hi hread hstart)
    · rw [hread] at hstart
      exact Option.some.inj hstart ▸ hgt
  | case4 lo hi hwindow =>
    obtain rfl : lo = hi := Nat.le_antisymm h.lo_le_hi (Nat.not_lt.1 hwindow)
    exact h

/-- The line that a search finds holds the offset, if a line starts at `0`. A search that misses has
passed that line, so that there is a last line before the place of its answer. -/
theorem Finds.holds_of_error {next : Nat} (hfirst : starts[0]? = some 0)
    (h : Finds starts offset (.error next)) : 0 < next ∧ Holds starts offset (next - 1) := by
  have hpos : 0 < next := by
    rw [Nat.pos_iff_ne_zero]
    rintro rfl
    exact absurd (h.above 0 0 (Nat.le_refl 0) hfirst) (Nat.not_lt_zero offset)
  have hsize : next - 1 < starts.size := by have := h.hi_le_size; omega
  have hread := Array.getElem?_eq_getElem hsize
  refine ⟨hpos, ⟨starts[next - 1], hread, ?_⟩, fun i start hi hstart => ?_⟩
  · exact (h.below (next - 1) _ (by omega) hread).le
  · exact h.above i start (by omega) hstart

theorem Finds.holds_of_ok (hstarts : starts.toList.Pairwise (· < ·)) {line : Nat}
    (h : Finds starts offset (.ok line)) : Holds starts offset line := by
  refine ⟨⟨offset, h, Nat.le_refl offset⟩, fun i start hi hstart => ?_⟩
  obtain ⟨hline, rfl⟩ := Array.getElem?_eq_some_iff.1 h
  obtain ⟨hsize, rfl⟩ := Array.getElem?_eq_some_iff.1 hstart
  exact List.pairwise_iff_getElem.1 hstarts line i hline hsize hi

/-! ### The table of a source -/

section OfString

variable {source : String} {before after : List Char}

@[simp] theorem text_ofString (source : String) : (ofString source).text = source.toList := rfl

theorem toList_starts_ofString (source : String) :
    (ofString source).starts.toList = 0 :: startsAfterNewlines 0 source.toList := rfl

theorem getElem?_starts_ofString (source : String) (i : Nat) :
    (ofString source).starts[i]? = (0 :: startsAfterNewlines 0 source.toList)[i]? :=
  List.getElem?_toArray

theorem pairwise_starts_ofString (source : String) :
    (ofString source).starts.toList.Pairwise (· < ·) :=
  .cons (fun _ hstart => (bounds_of_mem_startsAfterNewlines hstart).1)
    (pairwise_startsAfterNewlines 0 source.toList)

theorem lineCount_ofString (source : String) :
    (ofString source).lineCount = source.toList.count '\n' + 1 := by
  rw [lineCount, ← Array.length_toList, toList_starts_ofString, List.length_cons,
    length_startsAfterNewlines]

theorem finds_search_ofString (source : String) (offset : Nat) :
    Finds (ofString source).starts offset
      (search (ofString source).starts offset 0 (ofString source).starts.size) := by
  refine finds_search (pairwise_starts_ofString source) ⟨Nat.zero_le _, Nat.le_refl _, ?_, ?_⟩
  · intro i start hi
    exact absurd hi (Nat.not_lt_zero i)
  · intro i start hi hstart
    obtain ⟨hlt, -⟩ := Array.getElem?_eq_some_iff.1 hstart
    omega

/-- **A search that misses has passed a line**: the place of its answer is not the first one. -/
theorem pos_of_search_eq_error {next : Nat}
    (h : search (ofString source).starts offset 0 (ofString source).starts.size = .error next) :
    0 < next := by
  have hfinds := finds_search_ofString source offset
  rw [h] at hfinds
  exact (hfinds.holds_of_error rfl).1

theorem holds_lineOf (source : String) (offset : Nat) :
    Holds (ofString source).starts offset ((ofString source).lineOf offset) := by
  have hfinds := finds_search_ofString source offset
  rw [lineOf]
  split
  · next line hline =>
    rw [hline] at hfinds
    exact hfinds.holds_of_ok (pairwise_starts_ofString source)
  · next place hmiss =>
    rw [hmiss] at hfinds
    exact (hfinds.holds_of_error rfl).2

/-- The line that counting gives starts behind the earlier lines. -/
theorem getElem?_starts_count (h : source.toList = before ++ after) :
    (ofString source).starts[before.count '\n']? = some (byteLength (earlierLines before)) := by
  have hlast := getElem?_cons_startsAfterNewlines 0 before
  rw [Nat.zero_add] at hlast
  obtain ⟨hlt, -⟩ := List.getElem?_eq_some_iff.1 hlast
  rw [getElem?_starts_ofString, h, startsAfterNewlines_append, ← List.cons_append,
    List.getElem?_append_left hlt, hlast]

/-- The line that counting gives holds the offset: all later lines start behind it. -/
theorem holds_count (h : source.toList = before ++ after) :
    Holds (ofString source).starts (byteLength before) (before.count '\n') := by
  refine ⟨⟨_, getElem?_starts_count h, ?_⟩, fun i start hi hstart => ?_⟩
  · have hlength := congrArg byteLength (earlierLines_append_lastLine before)
    rw [byteLength_append] at hlength
    omega
  · have hlength : (0 :: startsAfterNewlines 0 before).length = before.count '\n' + 1 := by
      rw [List.length_cons, length_startsAfterNewlines]
    rw [getElem?_starts_ofString, h, startsAfterNewlines_append, ← List.cons_append,
      List.getElem?_append_right (by omega), Nat.zero_add] at hstart
    exact (bounds_of_mem_startsAfterNewlines (List.mem_of_getElem? hstart)).1

/-- **The line of an offset is the number of line feeds before it.** -/
theorem lineOf_ofString (h : source.toList = before ++ after) :
    (ofString source).lineOf (byteLength before) = before.count '\n' :=
  (holds_lineOf source _).unique (holds_count h)

/-- From the start of its line to an offset there is text, which is the last line before the offset. -/
theorem exists_slice (h : source.toList = before ++ after) :
    ∃ start, (ofString source).starts[(ofString source).lineOf (byteLength before)]? = some start ∧
      sliceBytes? source.toList start (byteLength before) = some (lastLine before) := by
  refine ⟨_, by rw [lineOf_ofString h]; exact getElem?_starts_count h, ?_⟩
  have hslice := sliceBytes?_append (earlierLines before) (lastLine before) after
  rwa [← byteLength_append, earlierLines_append_lastLine, ← h] at hslice

/-- **The position of an offset by counting.** In a source that is not too long no count exceeds the
range of lines and columns. -/
theorem position_append (hsize : source.utf8ByteSize < UInt32.size - 1)
    (h : source.toList = before ++ after) :
    ∃ p, (ofString source).position (byteLength before) = .ok p ∧
      p.line.toNat = before.count '\n' + 1 ∧ p.column.toNat = (lastLine before).length + 1 := by
  have hlength : byteLength before + byteLength after = source.utf8ByteSize := by
    rw [← byteLength_append, ← h, byteLength_toList]
  have hline : before.count '\n' ≤ byteLength before :=
    List.count_le_length.trans (length_le_byteLength before)
  have hcolumn : (lastLine before).length ≤ byteLength before := by
    have hparts := congrArg byteLength (earlierLines_append_lastLine before)
    have hle := length_le_byteLength (lastLine before)
    rw [byteLength_append] at hparts
    omega
  have hbound : ¬byteLength source.toList < byteLength before := by
    rw [byteLength_toList]
    omega
  have hboundary : IsBoundary source.toList (byteLength before) :=
    isBoundary_iff.2 ⟨before, after, h, rfl⟩
  obtain ⟨start, hstart, hslice⟩ := exists_slice h
  rw [lineOf_ofString h] at hstart
  refine ⟨⟨(before.count '\n').toUInt32 + 1, (lastLine before).length.toUInt32 + 1⟩, ?_, ?_, ?_⟩
  · rw [position, text_ofString, if_neg hbound, if_neg (not_not_intro hboundary)]
    simp only [Array.getD_eq_getD_getElem?, lineOf_ofString h, hstart, Option.getD_some, hslice]
  · exact toNat_toUInt32_add_one (by omega)
  · exact toNat_toUInt32_add_one (by omega)

theorem position_of_lt (h : source.utf8ByteSize < offset) :
    (ofString source).position offset = .error (.outOfBounds offset source.utf8ByteSize) := by
  rw [← byteLength_toList] at h ⊢
  exact if_pos h

theorem position_of_fallsInside (h : FallsInside source.toList offset) :
    (ofString source).position offset = .error (.insideCharacter offset) := by
  have hbound : ¬byteLength source.toList < offset := by
    obtain ⟨before, c, after, hsource, -, hlt⟩ := h
    rw [hsource, byteLength_append, byteLength_cons]
    omega
  rw [position, text_ofString, if_neg hbound, if_pos h.not_isBoundary]

/-- The three cases of an offset, each with the answer of the line table. -/
theorem position_cases (hsize : source.utf8ByteSize < UInt32.size - 1) (offset : Nat) :
    (source.utf8ByteSize < offset ∧
      (ofString source).position offset = .error (.outOfBounds offset source.utf8ByteSize)) ∨
    (FallsInside source.toList offset ∧
      (ofString source).position offset = .error (.insideCharacter offset)) ∨
    ∃ before after p, source.toList = before ++ after ∧ offset = byteLength before ∧
      (ofString source).position offset = .ok p ∧
      p.line.toNat = before.count '\n' + 1 ∧ p.column.toNat = (lastLine before).length + 1 := by
  rcases Nat.lt_or_ge source.utf8ByteSize offset with hlt | hle
  · exact .inl ⟨hlt, position_of_lt hlt⟩
  · rw [← byteLength_toList] at hle
    by_cases hboundary : IsBoundary source.toList offset
    · obtain ⟨before, after, hsource, rfl⟩ := isBoundary_iff.1 hboundary
      obtain ⟨p, hp, hline, hcolumn⟩ := position_append hsize hsource
      exact .inr (.inr ⟨before, after, p, hsource, rfl, hp, hline, hcolumn⟩)
    · have hinside := (fallsInside_iff hle).2 hboundary
      exact .inr (.inl ⟨hinside, position_of_fallsInside hinside⟩)

end OfString

/-! ### Agreement with the definition -/

/-- What the line table of a source says about a byte offset is what counting says. -/
structure AgreesWithCounting (source : String) (offset : Nat) : Prop where
  /-- The offset is out of bounds if and only if it exceeds the length of the source. -/
  outOfBounds_iff : ∀ o size, (ofString source).position offset = .error (.outOfBounds o size) ↔
    source.utf8ByteSize < offset ∧ o = offset ∧ size = source.utf8ByteSize
  /-- It is reported to be inside a character if and only if it is. -/
  insideCharacter_iff : ∀ o, (ofString source).position offset = .error (.insideCharacter o) ↔
    FallsInside source.toList offset ∧ o = offset
  /-- It has a position if and only if it ends a leading part of the source. The line is one more than
  the number of line feeds of that part, and the column one more than the number of characters of its
  last line. -/
  ok_iff : ∀ p, (ofString source).position offset = .ok p ↔
    ∃ before after, source.toList = before ++ after ∧ offset = byteLength before ∧
      p.line.toNat = before.count '\n' + 1 ∧ p.column.toNat = (lastLine before).length + 1
  /-- A search for the offset that misses does so behind the first line. -/
  pos_of_miss : ∀ next, search (ofString source).starts offset 0 (ofString source).starts.size =
    .error next → 0 < next
  /-- There is text from the start of the line to the offset, namely the last line before it. -/
  exists_slice : ∀ before after, source.toList = before ++ after → offset = byteLength before →
    ∃ start, (ofString source).starts[(ofString source).lineOf offset]? = some start ∧
      sliceBytes? source.toList start offset = some (lastLine before)
  /-- There is one line more than there are line feeds, -/
  lineCount_eq : (ofString source).lineCount = source.toList.count '\n' + 1
  /-- and no position lies behind the last line. -/
  line_le : ∀ p, (ofString source).position offset = .ok p →
    p.line.toNat ≤ (ofString source).lineCount

/-- **The line table agrees with the definition of lines and columns at every offset**, in every source
whose positions fit into 32 bits. -/
theorem agreesWithCounting_ofString {source : String} (hsize : source.utf8ByteSize < UInt32.size - 1)
    (offset : Nat) : AgreesWithCounting source offset := by
  constructor
  · intro o size
    constructor
    · intro h
      rcases position_cases hsize offset with ⟨hlt, hp⟩ | ⟨-, hp⟩ | ⟨_, _, p, -, -, hp, -⟩
      · cases hp.symm.trans h
        exact ⟨hlt, rfl, rfl⟩
      · cases hp.symm.trans h
      · cases hp.symm.trans h
    · rintro ⟨hlt, rfl, rfl⟩
      exact position_of_lt hlt
  · intro o
    constructor
    · intro h
      rcases position_cases hsize offset with ⟨-, hp⟩ | ⟨hinside, hp⟩ | ⟨_, _, p, -, -, hp, -⟩
      · cases hp.symm.trans h
      · cases hp.symm.trans h
        exact ⟨hinside, rfl⟩
      · cases hp.symm.trans h
    · rintro ⟨hinside, rfl⟩
      exact position_of_fallsInside hinside
  · intro p
    constructor
    · intro h
      rcases position_cases hsize offset with
        ⟨-, hp⟩ | ⟨-, hp⟩ | ⟨before, after, q, hsource, hoffset, hq, hline, hcolumn⟩
      · cases hp.symm.trans h
      · cases hp.symm.trans h
      · obtain rfl : q = p := Except.ok.inj (hq.symm.trans h)
        exact ⟨before, after, hsource, hoffset, hline, hcolumn⟩
    · rintro ⟨before, after, hsource, rfl, hline, hcolumn⟩
      obtain ⟨q, hq, hline', hcolumn'⟩ := position_append hsize hsource
      rw [hq, Position.eq_of_toNat_eq (hline'.trans hline.symm) (hcolumn'.trans hcolumn.symm)]
  · exact fun next => pos_of_search_eq_error
  · rintro before after hsource rfl
    exact LineTable.exists_slice hsource
  · exact lineCount_ofString source
  · intro p h
    rcases position_cases hsize offset with
      ⟨-, hp⟩ | ⟨-, hp⟩ | ⟨before, after, q, hsource, -, hq, hline, -⟩
    · cases hp.symm.trans h
    · cases hp.symm.trans h
    · obtain rfl : q = p := Except.ok.inj (hq.symm.trans h)
      rw [lineCount_ofString, hsource, List.count_append, hline]
      omega

/-- A source with an empty line and characters of two bytes: an offset behind such a character, one
inside it, one at the start of a line and one behind the end. -/
theorem agreesWithCounting_ofString_emptyLine :
    (ofString "é\n\nλx").position 6 = .ok ⟨3, 2⟩ ∧
    (ofString "é\n\nλx").position 5 = .error (.insideCharacter 5) ∧
    (ofString "é\n\nλx").position 3 = .ok ⟨2, 1⟩ ∧
    (ofString "é\n\nλx").position 8 = .error (.outOfBounds 8 7) := by
  have hsize : "é\n\nλx".utf8ByteSize < UInt32.size - 1 := by decide
  refine ⟨?_, ?_, ?_, ?_⟩
  · exact ((agreesWithCounting_ofString hsize 6).ok_iff ⟨3, 2⟩).2
      ⟨['é', '\n', '\n', 'λ'], ['x'], by decide, by decide, by decide, by decide⟩
  · exact ((agreesWithCounting_ofString hsize 5).insideCharacter_iff 5).2
      ⟨⟨['é', '\n', '\n'], 'λ', ['x'], by decide, by decide, by decide⟩, rfl⟩
  · exact ((agreesWithCounting_ofString hsize 3).ok_iff ⟨2, 1⟩).2
      ⟨['é', '\n'], ['\n', 'λ', 'x'], by decide, by decide, by decide, by decide⟩
  · exact ((agreesWithCounting_ofString hsize 8).outOfBounds_iff 8 7).2
      ⟨by decide, rfl, by decide⟩

end LineTable

end ChainLexer.Source
