import ChainLexer.Journal
import ChainLexer.Proofs.Locality
import Mathlib.Data.List.Basic

/-!
# Everything before a fault lexes

A scan that fails names one offset. This module justifies the name: the source up to that offset is a
source without a fault, and its tokens are those that the failed scan had made when it stopped. So the
offset is that of the first fault, and no earlier lexeme owes its end to anything behind it.

The argument is that of `Extends`. The source before the fault is the source cut off, and the cut is
made where a lexeme would begin, after the trivia. It goes through no marker, because the marker of a
comment belongs to the trivia.

## Main definitions

* `Record.token?`: the token that a record reports

## Main results

* `Resolution.offset_of_outcome`: a lexeme that is a fault is one at its own start
* `Runs.exists_before_fault`: the run over the text before a fault
* `Lexer.filterMap_token?_records`: the records of a scan report its tokens
* `Lexer.scan_before_fault`: the scan of the source before a fault
-/

namespace ChainLexer.Scan

open ChainLexer.Grammar ChainLexer.Settings ChainLexer.Source ChainLexer.Text

variable {T : Type}

/-! ### Where faults arise -/

theorem Obstacle.offset_faultAt (position : Nat) (obstacle : Obstacle) :
    (obstacle.faultAt position).offset = position := by
  cases obstacle <;> rfl

/-- A lexeme that is a fault is one at its own start, and no token. -/
theorem Resolution.offset_of_outcome {r : Resolution T} {fault : Fault}
    (h : r.outcome = .error fault) : fault.offset = r.span.start ∧ r.token? = none := by
  refine ⟨?_, by rw [token?, h]⟩
  rw [outcome] at h
  split at h
  · cases h
    rfl
  · split at h
    · cases h
      rfl
    · cases h

/-! ### The text before a fault -/

section BeforeFault

variable {marker : Marker} {c d : Cursor}

/-- A text that ends with its trivia has nothing behind it. -/
theorem rest_skipTrivia_of_trivia (hrest : d.rest = trivia marker (c.position == 0) c.rest)
    (hposition : d.position = c.position) : (skipTrivia marker d).rest = [] := by
  have hextends : Extends (skipTrivia marker c).rest d c :=
    ⟨by rw [hrest]; exact rest_eq_trivia_append marker c, hposition.symm⟩
  have hskip : Extends (skipTrivia marker c).rest (skipTrivia marker d) (skipTrivia marker c) :=
    hextends.skipTrivia_of_long (hrest ▸ List.prefix_refl _)
  exact List.self_eq_append_left.1 hskip.rest_eq

/-- Where a comment begins, its marker belongs to the trivia. -/
theorem startsAt_trivia {cs : List Char} (h : marker.startsAt cs = true) :
    marker.startsAt (trivia marker false cs) = true := by
  obtain ⟨text, rfl⟩ := exists_of_startsAt h
  have hblank : Stops isBlank (marker.toList ++ text) := by
    have hfirst := isWhiteSpace_of_isOperatorChar marker.first_isOperatorChar
    exact stops_cons.2 (by simp [isBlank, hfirst])
  have hmark : leadingMark false (marker.toList ++ text) = [] := by simp [leadingMark]
  rw [trivia_eq, hmark, List.nil_append, List.length_nil, List.drop_zero, gapText_of_stops hblank,
    leadingComment_toList_append]
  exact startsAt_append marker _

/-- **The run over the text before a fault** finishes, with the tokens that were made before the
fault. The induction is on the derivation of the run that fails. That the trivia belongs to the text
before the fault keeps the cut from going through a marker. -/
theorem Runs.exists_before_fault {registry : Registry T} {m : Memory} {r : Run T} {fault : Fault}
    (h : Runs marker registry m c r) (hend : r.ending = .failed fault) :
    ∃ before after, c.rest = before ++ after ∧
      fault.offset = c.position + byteLength before ∧
      trivia marker (c.position == 0) c.rest <+: before ∧
      ∀ d : Cursor, d.rest = before → d.position = c.position →
        ∃ r', Runs marker registry m d r' ∧ (∃ c' m', r'.ending = .finished c' m') ∧
          r'.tokens = r.tokens := by
  induction h with
  | finished => cases hend
  | @blocked m c first others obstacle hrest hblocked =>
    cases hend
    refine ⟨_, _, rest_eq_trivia_append marker c, ?_, List.prefix_refl _, fun d hd hposition => ?_⟩
    · rw [Obstacle.offset_faultAt, position_skipTrivia]
    · exact ⟨_, .finished (rest_skipTrivia_of_trivia hd hposition), ⟨_, _, rfl⟩, rfl⟩
  | @refused m c c' w span _ hreach hout =>
    cases hend
    obtain ⟨hoffset, htoken⟩ := Resolution.offset_of_outcome hout
    have hstart : fault.offset = span.start := hoffset
    refine ⟨_, _, rest_eq_trivia_append marker c, ?_, List.prefix_refl _, fun d hd hposition => ?_⟩
    · rw [hstart, hreach.span_eq, position_skipTrivia]
    · refine ⟨_, .finished (rest_skipTrivia_of_trivia hd hposition), ⟨_, _, rfl⟩, ?_⟩
      exact (List.filterMap_cons_none htoken).symm
  | @resolved m c c' w span token rest hreach hout _ ih =>
    obtain ⟨before, after, hrest, hoffset, htrivia, hruns⟩ := ih hend
    have hpos : (c'.position == 0) = false := beq_false_of_ne hreach.position_ne_zero
    have hmarker : marker.startsAt (before ++ after) = true → marker.startsAt before = true := by
      intro hstarts
      rw [hpos, hrest] at htrivia
      obtain ⟨text, htext⟩ := htrivia
      have hbefore := startsAt_append_of_startsAt (startsAt_trivia hstarts) text
      rwa [htext] at hbefore
    have hsplit : c.rest =
        trivia marker (c.position == 0) c.rest ++ w.text ++ before ++ after := by
      rw [List.append_assoc, ← hrest, List.append_assoc, ← hreach.rest_eq]
      exact rest_eq_trivia_append marker c
    have hbegins : trivia marker (c.position == 0) c.rest <+:
        trivia marker (c.position == 0) c.rest ++ w.text ++ before :=
      ⟨w.text ++ before, (List.append_assoc _ _ _).symm⟩
    refine ⟨_, after, hsplit, ?_, hbegins, fun d hd hposition => ?_⟩
    · rw [hoffset, hreach.position_eq, hreach.span_eq, position_skipTrivia, byteLength_append,
        byteLength_append]
      show c.position + _ + byteLength w.text + byteLength before = _
      omega
    · have hextends : Extends after d c := ⟨by rw [hd]; exact hsplit, hposition.symm⟩
      obtain ⟨d', hreach', hrest', hposition'⟩ :=
        hextends.reaches_of_long hreach (by rw [hd]; exact hbegins) hrest hmarker
      obtain ⟨r', hruns', hfinished, htokens⟩ := hruns d' hrest' hposition'
      refine ⟨_, .resolved hreach' hout hruns', hfinished, ?_⟩
      rw [Run.tokens_cons, Run.tokens_cons, htokens]

end BeforeFault

end ChainLexer.Scan

namespace ChainLexer

open ChainLexer.Grammar ChainLexer.Scan ChainLexer.Settings ChainLexer.Source ChainLexer.Text

variable {T : Type}

/-! ### The tokens in the records of a scan -/

/-- The token that a record reports. -/
def Record.token? : Record T → Option (Token T)
  | emitted token => some token
  | _ => none

theorem Record.filterMap_token?_ofResolution (r : Resolution T) :
    (Record.ofResolution r).filterMap Record.token? = r.token?.toList := by
  have hwrites : (Record.ofWrites r.writes).filterMap (Record.token? (T := T)) = [] := by
    simp [Record.ofWrites, List.filterMap_map, Function.comp_def, Record.token?]
  rw [Record.ofResolution, List.filterMap_append, hwrites, List.nil_append]
  cases r.token? <;> rfl

namespace Lexer

/-- The records of a scan report its tokens, up to its fault if it has one. -/
theorem filterMap_token?_records (lexer : Lexer T) :
    lexer.scanLogged.records.filterMap Record.token? = lexer.run.tokens := by
  have hend : (lexer.endRecord lexer.run).token? = none := by
    rw [endRecord]
    split <;> rfl
  show (lexer.run.resolutions.flatMap Record.ofResolution ++
    [lexer.endRecord lexer.run]).filterMap Record.token? = _
  rw [List.filterMap_append, List.filterMap_cons_none hend, List.filterMap_nil, List.append_nil,
    List.filterMap_flatMap]
  simp only [Record.filterMap_token?_ofResolution]
  exact (List.filterMap_eq_flatMap_toList _ _).symm

/-! ### Scans that fail -/

/-- **Everything before a fault lexes.** The offset of a fault is a boundary of the source. The source
up to there is scanned with success, by a lexer with the same settings and classifiers, and the tokens
are those that the failed scan has reported. -/
theorem scan_before_fault {source : String} {config : Config} {lexer : Lexer T}
    (hlexer : withConfig source config = .ok lexer) (registry : Registry T) {fault : Fault}
    (hfault : (lexer.withRegistry registry).scan.1 = .error fault) :
    IsBoundary source.toList fault.offset ∧
    ∃ (before : String) (cut : Lexer T),
      (⟨0, fault.offset⟩ : Span).slice? source = some before ∧
      withConfig before config = .ok cut ∧
      (cut.withRegistry registry).scan.1 =
        .ok ((lexer.withRegistry registry).scanLogged.records.filterMap Record.token?) := by
  obtain ⟨m, htext, rfl⟩ := withConfig_eq_ok_iff.1 hlexer
  have hend := Run.result_eq_error_iff.1 hfault
  obtain ⟨before, after, hsource, hoffset, -, hruns⟩ :=
    (runs_withMarker source m registry).exists_before_fault hend
  rw [Cursor.rest_ofString] at hsource
  rw [Cursor.position_ofString, Nat.zero_add] at hoffset
  have hsplit : splitBytes? source.toList fault.offset = some (before, after) := by
    rw [hsource, hoffset, splitBytes?_append]
  obtain ⟨r, hr, ⟨c', m', hfinished⟩, htokens⟩ :=
    hruns (.ofString (String.ofList before)) String.toList_ofList rfl
  refine ⟨by rw [IsBoundary, hsplit]; rfl, String.ofList before, withMarker (String.ofList before) m,
    ?_, withConfig_eq_ok_iff.2 ⟨m, htext, rfl⟩, ?_⟩
  · rw [Span.slice?, sliceBytes?, if_pos (Nat.zero_le _), splitBytes?_zero, Option.bind_some,
      Nat.sub_zero, hsplit]
    rfl
  · obtain rfl := hr.eq_run Memory.steady_fresh
    rw [filterMap_token?_records]
    exact Run.result_eq_ok_iff.2 ⟨⟨c', m', hfinished⟩, htokens⟩

/-- Every lexeme is emitted under its category, but for names that begin with a capital letter, about
which nobody has an opinion. -/
def lowercaseRegistry : Registry Category :=
  Registry.empty.registerEach fun category lexeme _ =>
    if category = .identifier ∧ lexeme.toList.head?.any (· ≤ 'Z') then .decline else .emit category

/-- The lexer of a source with a fault right behind an operator that ends with half a marker. -/
def faulty : Lexer Category := (ofSource "é --c\n7+-Z").withRegistry lowercaseRegistry

/-- The tokens before the fault, with the line feed behind a comment among them. -/
def beforeFault : List (Token Category) :=
  [⟨.identifier, "é", ⟨0, 2⟩, none⟩, ⟨.operator, "\n", ⟨6, 7⟩, none⟩,
    ⟨.number, "7", ⟨7, 8⟩, some (.int 7)⟩, ⟨.operator, "+-", ⟨8, 10⟩, none⟩]

/-- The source is cut off behind the operator, which stays an operator. -/
theorem scan_before_fault_operator :
    faulty.scan.1 = .error (.unrecognized .identifier "Z" ⟨10, 11⟩) ∧
    faulty.scanLogged.records.filterMap Record.token? = beforeFault ∧
    ∃ cut, withConfig "é --c\n7+-" {} = .ok cut ∧
      (cut.withRegistry lowercaseRegistry).scan.1 = .ok beforeFault := by
  have hfault : faulty.scan.1 = .error (.unrecognized .identifier "Z" ⟨10, 11⟩) := by
    decide +kernel
  obtain ⟨-, before, cut, hslice, hcut, hscan⟩ :=
    scan_before_fault (withConfig_customary _) lowercaseRegistry hfault
  have hbefore : (⟨0, 10⟩ : Span).slice? "é --c\n7+-Z" = some "é --c\n7+-" := by decide +kernel
  obtain rfl : before = "é --c\n7+-" := Option.some.inj (hslice.symm.trans hbefore)
  have htokens : faulty.scanLogged.records.filterMap Record.token? = beforeFault := by
    decide +kernel
  exact ⟨hfault, htokens, cut, hcut, htokens ▸ hscan⟩

end Lexer

end ChainLexer
