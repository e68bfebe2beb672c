import ChainLexer.Proofs.Positions

/-!
# Spans and the text they name

The ends of a span are byte offsets, while a text is made of characters, and a character may take
several bytes. A span names a text only if no end of it falls inside a character. When two such spans
touch, the text of their join is the text of the first followed by the text of the second, and a span
can be cut in two at every boundary between its ends.

## What a slice is

All laws of this module come from `Span.slice?_eq_some_iff`: a span names `x` in a source if and only
if the source has the form `before ++ x ++ after` with the ends of the span on either side of `x`. The
offset at which two spans touch then cuts the source in one way only (`eq_and_eq_of_utf8ByteSize_eq`),
and nothing else is needed to put the two texts together.

The bytes and the boundaries of a string are those of the library. `isBoundary_toList_iff` says that an
offset is a boundary of the characters exactly if it is a valid position of the string, which is to say
that the bytes before it are UTF-8 by themselves.

## Main definitions

* `Span.JoinsText`: the laws of joining and cutting the spans of a source

## Main results

* `Span.slice?_eq_some_iff`: the parts of a source that a span names
* `Span.isSome_slice?_iff`: the spans that name a text
* `Span.slice?_of_join`: the text of a join
* `Span.exists_slice?_of_isValid`: a span cut in two at a boundary
* `Span.joinsText`: joining spans concatenates their text
-/

namespace ChainLexer.Text

/-! ### Slices of a text -/

theorem sliceBytes?_eq_some_iff {cs text : List Char} {a b : Nat} :
    sliceBytes? cs a b = some text ↔
      ∃ before after, cs = before ++ text ++ after ∧ a = byteLength before ∧
        b = a + byteLength text := by
  constructor
  · intro h
    rw [sliceBytes?] at h
    split at h
    next hle =>
      obtain ⟨⟨before, rest⟩, hsplit, h⟩ := Option.bind_eq_some_iff.1 h
      obtain ⟨⟨text', after⟩, hcut, rfl⟩ := Option.map_eq_some_iff.1 h
      obtain ⟨rfl, rfl⟩ := append_of_splitBytes? hsplit
      obtain ⟨rfl, hlength⟩ := append_of_splitBytes? hcut
      refine ⟨before, after, (List.append_assoc ..).symm, rfl, ?_⟩
      rw [hlength, Nat.add_sub_cancel' hle]
    next => cases h
  · rintro ⟨before, after, rfl, rfl, rfl⟩
    exact sliceBytes?_append before text after

/-- The boundaries between the characters of a string are its valid positions. -/
theorem isBoundary_toList_iff {source : String} {n : Nat} :
    IsBoundary source.toList n ↔ String.Pos.Raw.IsValid source ⟨n⟩ := by
  rw [isBoundary_iff, String.Pos.Raw.isValid_iff_exists_append]
  constructor
  · rintro ⟨before, after, hsource, rfl⟩
    refine ⟨String.ofList before, String.ofList after, ?_, ?_⟩
    · rw [← String.ofList_append, ← hsource, String.ofList_toList]
    · rw [String.Pos.Raw.ext_iff, String.byteIdx_rawEndPos, utf8ByteSize_ofList]
  · rintro ⟨before, after, rfl, hn⟩
    refine ⟨before.toList, after.toList, String.toList_append, ?_⟩
    rw [byteLength_toList, ← String.byteIdx_rawEndPos, ← hn]

/-- A string is cut in one way only at a byte offset. -/
theorem eq_and_eq_of_utf8ByteSize_eq {xs ys xs' ys' : String} (h : xs ++ ys = xs' ++ ys')
    (hsize : xs.utf8ByteSize = xs'.utf8ByteSize) : xs = xs' ∧ ys = ys' := by
  have hlist : xs.toList ++ ys.toList = xs'.toList ++ ys'.toList := by
    rw [← String.toList_append, h, String.toList_append]
  rw [← byteLength_toList, ← byteLength_toList] at hsize
  obtain ⟨more, hmore, hys⟩ := exists_append_of_byteLength_le hlist hsize.le
  obtain rfl : more = [] := by
    rw [hmore, byteLength_append] at hsize
    exact eq_nil_of_byteLength_eq_zero (by omega)
  rw [List.append_nil] at hmore
  exact ⟨String.toList_inj.1 hmore.symm, String.toList_inj.1 hys⟩

end ChainLexer.Text

namespace ChainLexer.Source.Span

open ChainLexer.Text

/-! ### Spans that name a text -/

/-- **A span names what stands between its ends**, and nothing if the source cannot be cut there. -/
theorem slice?_eq_some_iff {s : Span} {source x : String} :
    s.slice? source = some x ↔
      ∃ before after, source = before ++ x ++ after ∧ s.start = before.utf8ByteSize ∧
        s.stop = s.start + x.utf8ByteSize := by
  rw [slice?, Option.map_eq_some_iff]
  constructor
  · rintro ⟨text, hslice, rfl⟩
    obtain ⟨before, after, hsource, hstart, hstop⟩ := sliceBytes?_eq_some_iff.1 hslice
    refine ⟨String.ofList before, String.ofList after, ?_, ?_, ?_⟩
    · rw [← String.ofList_append, ← String.ofList_append, ← hsource, String.ofList_toList]
    · rw [hstart, utf8ByteSize_ofList]
    · rw [hstop, utf8ByteSize_ofList]
  · rintro ⟨before, after, rfl, hstart, hstop⟩
    refine ⟨x.toList, sliceBytes?_eq_some_iff.2 ⟨before.toList, after.toList, ?_, ?_, ?_⟩,
      String.ofList_toList⟩
    · rw [String.toList_append, String.toList_append]
    · rw [hstart, byteLength_toList]
    · rw [hstop, byteLength_toList]

/-- The bytes of the text are those of the source from the start of the span to its end. -/
theorem toByteArray_of_slice? {s : Span} {source x : String} (h : s.slice? source = some x) :
    x.toByteArray = source.toByteArray.extract s.start s.stop := by
  obtain ⟨before, after, rfl, hstart, hstop⟩ := slice?_eq_some_iff.1 h
  have hextract : (before.toByteArray ++ (x.toByteArray ++ after.toByteArray)).extract
      (before.toByteArray.size + 0) (before.toByteArray.size + x.toByteArray.size) =
        x.toByteArray := by
    rw [ByteArray.extract_append_size_add, ByteArray.extract_append_eq_left rfl]
  rw [String.append_assoc, String.toByteArray_append, String.toByteArray_append, hstop, hstart]
  exact hextract.symm

/-- And there are as many of them as the length of the span says. -/
theorem utf8ByteSize_of_slice? {s : Span} {source x : String} (h : s.slice? source = some x) :
    x.utf8ByteSize = s.length := by
  obtain ⟨before, after, -, -, hstop⟩ := slice?_eq_some_iff.1 h
  rw [length, hstop, Nat.add_sub_cancel_left]

/-- **A span names a text** exactly if it is not reversed, ends inside the source, and falls into no
character with either end. -/
theorem isSome_slice?_iff {s : Span} {source : String} :
    (s.slice? source).isSome ↔
      s.start ≤ s.stop ∧ s.stop ≤ source.utf8ByteSize ∧ String.Pos.Raw.IsValid source ⟨s.start⟩ ∧
        String.Pos.Raw.IsValid source ⟨s.stop⟩ := by
  rw [Option.isSome_iff_exists]
  constructor
  · rintro ⟨x, hslice⟩
    obtain ⟨before, after, rfl, hstart, hstop⟩ := slice?_eq_some_iff.1 hslice
    refine ⟨by omega, ?_, String.Pos.Raw.isValid_iff_exists_append.2 ?_,
      String.Pos.Raw.isValid_iff_exists_append.2 ?_⟩
    · rw [String.utf8ByteSize_append, String.utf8ByteSize_append]
      omega
    · exact ⟨before, x ++ after, String.append_assoc .., String.Pos.Raw.ext hstart⟩
    · refine ⟨before ++ x, after, rfl, String.Pos.Raw.ext ?_⟩
      rw [String.byteIdx_rawEndPos, String.utf8ByteSize_append, ← hstart, ← hstop]
  · rintro ⟨hle, -, hstart, hstop⟩
    obtain ⟨before, rest, hsource, hbefore⟩ := isBoundary_iff.1 (isBoundary_toList_iff.2 hstart)
    obtain ⟨upto, after, hsource', hupto⟩ := isBoundary_iff.1 (isBoundary_toList_iff.2 hstop)
    -- The later boundary leaves more in front, and what is more is the text.
    obtain ⟨text, rfl, -⟩ := exists_append_of_byteLength_le (hsource.symm.trans hsource')
      (by omega)
    rw [byteLength_append] at hupto
    refine ⟨String.ofList text, ?_⟩
    rw [slice?, sliceBytes?_eq_some_iff.2 ⟨before, after, hsource', hbefore, by omega⟩,
      Option.map_some]

/-! ### Joining and cutting -/

theorem join_eq_some_iff {a b c : Span} :
    a.join b = some c ↔ a.stop = b.start ∧ c = ⟨a.start, b.stop⟩ := by
  rw [join, Option.ite_none_right_eq_some, Option.some.injEq, eq_comm (b := c)]

/-- The join of two spans of which none is reversed is their merge. -/
theorem eq_merge_of_join {a b c : Span} (ha : a.start ≤ a.stop) (hb : b.start ≤ b.stop)
    (h : a.join b = some c) : c = a.merge b := by
  obtain ⟨htouch, rfl⟩ := join_eq_some_iff.1 h
  rw [merge, mk.injEq]
  omega

/-- **Joining spans concatenates their text.** -/
theorem slice?_of_join {a b c : Span} {source x y : String} (ha : a.slice? source = some x)
    (hb : b.slice? source = some y) (h : a.join b = some c) :
    c.slice? source = some (x ++ y) := by
  obtain ⟨htouch, rfl⟩ := join_eq_some_iff.1 h
  obtain ⟨before, after, hsource, hstart, hstop⟩ := slice?_eq_some_iff.1 ha
  obtain ⟨before', after', hsource', hstart', hstop'⟩ := slice?_eq_some_iff.1 hb
  -- What stands before the second text is the first text and what stands before that.
  have hcut : before ++ x ++ after = before' ++ (y ++ after') := by
    rw [← hsource, hsource', String.append_assoc]
  have hsize : (before ++ x).utf8ByteSize = before'.utf8ByteSize := by
    rw [String.utf8ByteSize_append]
    omega
  obtain ⟨rfl, rfl⟩ := eq_and_eq_of_utf8ByteSize_eq hcut hsize
  refine slice?_eq_some_iff.2 ⟨before, after', ?_, hstart, ?_⟩
  · rw [hsource', ← String.append_assoc]
  · rw [String.utf8ByteSize_append, hstop', ← htouch, hstop, Nat.add_assoc]

/-- **A span that names a text can be cut in two** at every boundary between its ends. -/
theorem exists_slice?_of_isValid {c : Span} {source z : String} {m : Nat}
    (hc : c.slice? source = some z) (hm : String.Pos.Raw.IsValid source ⟨m⟩) (hlo : c.start ≤ m)
    (hhi : m ≤ c.stop) :
    ∃ x y, slice? ⟨c.start, m⟩ source = some x ∧ slice? ⟨m, c.stop⟩ source = some y ∧
      z = x ++ y := by
  obtain ⟨-, hend, hstart, hstop⟩ := isSome_slice?_iff.1 (Option.isSome_of_eq_some hc)
  obtain ⟨x, hx⟩ := Option.isSome_iff_exists.1 ((isSome_slice?_iff (s := ⟨c.start, m⟩)).2
    ⟨hlo, hhi.trans hend, hstart, hm⟩)
  obtain ⟨y, hy⟩ := Option.isSome_iff_exists.1 ((isSome_slice?_iff (s := ⟨m, c.stop⟩)).2
    ⟨hhi, hend, hm, hstop⟩)
  have hjoin := slice?_of_join hx hy (join_eq_some_iff.2 ⟨rfl, rfl⟩)
  exact ⟨x, y, hx, hy, Option.some.inj (hc.symm.trans hjoin)⟩

/-- The laws of joining and cutting the spans of a source. -/
structure JoinsText (source : String) : Prop where
  /-- A span names a text exactly if it is not reversed, ends inside the source, and falls into no
  character with either end. -/
  isSome_iff : ∀ s : Span, (s.slice? source).isSome ↔
    s.start ≤ s.stop ∧ s.stop ≤ source.utf8ByteSize ∧ String.Pos.Raw.IsValid source ⟨s.start⟩ ∧
      String.Pos.Raw.IsValid source ⟨s.stop⟩
  /-- The bytes of the text are those of the source between the ends of the span, -/
  bytes : ∀ (s : Span) (x : String), s.slice? source = some x →
    x.toByteArray = source.toByteArray.extract s.start s.stop
  /-- as many as the length of the span says. -/
  size : ∀ (s : Span) (x : String), s.slice? source = some x → x.utf8ByteSize = s.length
  /-- The join of two spans that name texts is their merge, and it names the one text followed by the
  other. -/
  join : ∀ (a b c : Span) (x y : String), a.slice? source = some x → b.slice? source = some y →
    a.join b = some c →
    c = a.merge b ∧ c.slice? source = some (x ++ y) ∧ c.length = a.length + b.length
  /-- A span that names a text is cut by every boundary between its ends into two spans that name
  texts and whose join it is. -/
  cut : ∀ (c : Span) (z : String) (m : Nat), c.slice? source = some z →
    String.Pos.Raw.IsValid source ⟨m⟩ → c.start ≤ m → m ≤ c.stop →
    ∃ x y, slice? ⟨c.start, m⟩ source = some x ∧ slice? ⟨m, c.stop⟩ source = some y ∧
      z = x ++ y ∧ Span.join ⟨c.start, m⟩ ⟨m, c.stop⟩ = some c

/-- **Joining spans concatenates their text**, and cutting a span cuts its text, in every source. -/
theorem joinsText (source : String) : JoinsText source where
  isSome_iff _ := isSome_slice?_iff
  bytes _ _ := toByteArray_of_slice?
  size _ _ := utf8ByteSize_of_slice?
  join a b c x y ha hb h := by
    have hslice := slice?_of_join ha hb h
    obtain ⟨hforward, -⟩ := isSome_slice?_iff.1 (Option.isSome_of_eq_some ha)
    obtain ⟨hforward', -⟩ := isSome_slice?_iff.1 (Option.isSome_of_eq_some hb)
    refine ⟨eq_merge_of_join hforward hforward' h, hslice, ?_⟩
    rw [← utf8ByteSize_of_slice? hslice, ← utf8ByteSize_of_slice? ha,
      ← utf8ByteSize_of_slice? hb, String.utf8ByteSize_append]
  cut c z m hc hm hlo hhi := by
    obtain ⟨x, y, hx, hy, hz⟩ := exists_slice?_of_isValid hc hm hlo hhi
    exact ⟨x, y, hx, hy, hz, join_eq_some_iff.2 ⟨rfl, rfl⟩⟩

/-- A character of two bytes can be cut off but not cut in two. -/
theorem joinsText_twoBytes :
    slice? ⟨0, 1⟩ "né" = some "n" ∧ slice? ⟨1, 3⟩ "né" = some "é" ∧
    slice? ⟨0, 3⟩ "né" = some ("n" ++ "é") ∧
    (∃ x y, slice? ⟨0, 1⟩ "né" = some x ∧ slice? ⟨1, 3⟩ "né" = some y ∧ "n" ++ "é" = x ++ y ∧
      Span.join ⟨0, 1⟩ ⟨1, 3⟩ = some ⟨0, 3⟩) ∧
    slice? ⟨1, 2⟩ "né" = none ∧ slice? ⟨3, 1⟩ "né" = none ∧ slice? ⟨3, 4⟩ "né" = none := by
  have hjoins := joinsText "né"
  have hfirst : slice? ⟨0, 1⟩ "né" = some "n" := by decide +kernel
  have hsecond : slice? ⟨1, 3⟩ "né" = some "é" := by decide +kernel
  obtain ⟨-, hwhole, -⟩ := hjoins.join _ _ ⟨0, 3⟩ _ _ hfirst hsecond rfl
  obtain ⟨-, -, -, hboundary⟩ := (hjoins.isSome_iff ⟨0, 1⟩).1 (Option.isSome_of_eq_some hfirst)
  refine ⟨hfirst, hsecond, hwhole,
    hjoins.cut ⟨0, 3⟩ _ 1 hwhole hboundary (by decide) (by decide), ?_⟩
  decide +kernel

end ChainLexer.Source.Span
