import QuickFix.Proofs.Batch
import QuickFix.Proofs.Chase

/-!
Replacing what was found. A match has columns of one line; in the document these are offsets, and
what stands between the two is the matched text, whatever the lines before it end with. So the edit
of a match takes away the matched text and leaves all else as it is.
-/

namespace QuickFix

/-- The text of a whole match is what stands in its span. -/
theorem Captured.matched_ofSpans (re : Regex) (text : List Char) (spans : Regex.Spans) :
    (ofSpans re text spans).matched.toList = (Regex.Spans.whole spans).slice text := by
  match spans with
  | [] => simp [ofSpans, matched, group?, Regex.Spans.whole, Span.slice]
  | none :: _ => simp [ofSpans, matched, group?, Regex.Spans.whole, Span.slice]
  | some _ :: _ => simp [ofSpans, matched, group?, Regex.Spans.whole]

namespace Document

/-- Whether a position is one of a document: a column of one of its lines, at most the end of it. -/
def HasPosition (d : Document) (position : Position) : Prop :=
  ∃ text, d.line? position.line = some text ∧ position.column ≤ text.length

/-- Whether a range goes from a position of a document to one that is not in front of it. -/
structure HasRange (d : Document) (range : Range) : Prop where
  start : d.HasPosition range.start
  stop : d.HasPosition range.stop
  ordered : range.start ≤ range.stop

/-- What stands between two offsets of a document. -/
def between (d : Document) (start stop : Nat) : List Char :=
  (d.chars.drop start).take (stop - start)

variable {d : Document} {patterns : List Regex} {m : Located}

theorem between_lineStart {text : List Char} {line start stop : Nat}
    (hline : d.line? line = some text) (hstop : stop ≤ text.length) :
    d.between (Text.lineStart d.chars line + start) (Text.lineStart d.chars line + stop) =
      (text.drop start).take (stop - start) := by
  obtain ⟨behind, hbehind⟩ := Text.line_prefix_drop_lineStart hline
  have hcount : Text.lineStart d.chars line + stop - (Text.lineStart d.chars line + start) =
      stop - start := by omega
  rw [between, hcount, ← List.drop_drop, ← hbehind, List.drop_append, List.take_append_of_le_length]
  rw [List.length_drop]
  omega

/-- Where a match was found: on a line of the document, and there in its span. -/
theorem exists_line_of_locate? (hcompiled : ∀ re ∈ patterns, re.Compiled) {stop : Option Regex}
    (hfound : d.locate? patterns stop = some m) :
    ∃ text, d.line? m.line = some text ∧ m.span.start ≤ m.span.stop ∧
      m.span.stop ≤ text.length ∧ m.captured.matched.toList = m.span.slice text := by
  obtain ⟨hits, hhits, _, hlast⟩ := (locate?_eq_some_iff hcompiled).mp hfound
  obtain ⟨re, hre, _, hhit⟩ := hhits.exists_isHit (List.mem_of_getLast? hlast)
  obtain ⟨text, htext, hmatch⟩ := Option.bind_eq_some_iff.mp hhit.found
  obtain ⟨spans, hspans, heq⟩ := Option.map_eq_some_iff.mp hmatch
  obtain ⟨_, hle, hstop⟩ := (hcompiled re hre).whole_of_matchFrom? hspans
  refine ⟨text, htext, ?_⟩
  rw [← heq]
  exact ⟨hle, hstop, Captured.matched_ofSpans re text spans⟩

/-- One edit alone puts its text between what stands in front of its place and what stands behind
it. -/
theorem chars_applyEdits_singleton (d : Document) (edit : TextEdit) :
    (d.applyEdits [edit]).1.chars =
      d.chars.take (d.splice edit).start ++ edit.newText.toList ++
        d.chars.drop (d.splice edit).stop := by
  obtain ⟨hle, hlength⟩ := d.splice_bounds edit
  have happly := Splice.apply_take_append hle hlength (d.chars.drop (d.splice edit).stop)
  rw [List.take_append_drop] at happly
  simpa [applyEdits, splices, splice] using happly

/-- What it is for a match to stand for a stretch of its document. -/
structure StandsFor (d : Document) (m : Located) : Prop where
  hasRange : d.HasRange m.range
  start_le : d.offsetAt m.range.start ≤ d.offsetAt m.range.stop
  stop_le : d.offsetAt m.range.stop ≤ d.chars.length
  /-- Between these the matched text stands. -/
  between : d.between (d.offsetAt m.range.start) (d.offsetAt m.range.stop) =
    m.captured.matched.toList
  /-- A text that replaces the range stands there in its place, and all else is as before. -/
  replaced : ∀ text, (d.applyEdits [.replace m.range text]).1.chars =
    d.chars.take (d.offsetAt m.range.start) ++ text.toList ++
      d.chars.drop (d.offsetAt m.range.stop)

/-- What stands in a span of a line is a stretch of the document. -/
theorem standsFor_of_line? {text : List Char} (htext : d.line? m.line = some text)
    (hle : m.span.start ≤ m.span.stop) (hlength : m.span.stop ≤ text.length)
    (hmatched : m.captured.matched.toList = m.span.slice text) : d.StandsFor m := by
  have hstart : d.offsetAt m.range.start = Text.lineStart d.chars m.line + m.span.start :=
    Text.offsetAt_of_line? htext (Nat.le_trans hle hlength)
  have hstop : d.offsetAt m.range.stop = Text.lineStart d.chars m.line + m.span.stop :=
    Text.offsetAt_of_line? htext hlength
  have hordered : d.offsetAt m.range.start ≤ d.offsetAt m.range.stop := by omega
  refine ⟨⟨⟨text, htext, Nat.le_trans hle hlength⟩, ⟨text, htext, hlength⟩, .inr ⟨rfl, hle⟩⟩,
    hordered, Text.offsetAt_le _ _, ?_, fun new => ?_⟩
  · rw [hstart, hstop, between_lineStart htext hlength, hmatched, Span.slice]
  · rw [chars_applyEdits_singleton]
    simp only [splice, TextEdit.replace, Nat.min_eq_left hordered, Nat.max_eq_right hordered]

/-- A match that is found in a document is a stretch of it, and its edit replaces that stretch. -/
theorem standsFor_of_locate? (hcompiled : ∀ re ∈ patterns, re.Compiled) {stop : Option Regex}
    (hfound : d.locate? patterns stop = some m) : d.StandsFor m := by
  obtain ⟨text, htext, hle, hlength, hmatched⟩ := exists_line_of_locate? hcompiled hfound
  exact standsFor_of_line? htext hle hlength hmatched

end Document

namespace ReplacementWitness

/-- A line that ends in two characters, and one that ends in a character of its own text. -/
def document : Document := ⟨⟨"/a"⟩, "rust", 0, ['é', '\r', '\n', 'é', 'b', '\x0b', 'b']⟩

def patterns : List Regex := [.letter 'b', .letter '\x0b']

/-- The end of the second line, behind the first match. -/
def lineEnd : Located := ⟨.ofSpans (.letter '\x0b') ['é', 'b', '\x0b'] [some ⟨2, 3⟩], 1, ⟨2, 3⟩⟩

theorem compiled : ∀ re ∈ patterns, re.Compiled := by
  have hletter : (Regex.letter 'b').Compiled := Regex.compiled_letter (by decide)
  have hend : (Regex.letter '\x0b').Compiled := Regex.compiled_letter (by decide)
  simp [patterns, hletter, hend]

theorem locate?_patterns : document.locate? patterns none = some lineEnd := by cbv

/-- A line end that was found is a stretch of one character; replacing it joins two lines. -/
theorem standsFor_lineEnd :
    (∀ re ∈ patterns, re.Compiled) ∧ document.locate? patterns none = some lineEnd ∧
      document.between 5 6 = ['\x0b'] ∧
      (document.applyEdits [.replace lineEnd.range "é"]).1.chars =
        ['é', '\r', '\n', 'é', 'b', 'é', 'b'] := by
  have hstands := document.standsFor_of_locate? compiled locate?_patterns
  exact ⟨compiled, locate?_patterns, hstands.between, hstands.replaced "é"⟩

end ReplacementWitness

end QuickFix
