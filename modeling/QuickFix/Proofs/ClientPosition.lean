import QuickFix.Proofs.Sending

/-!
Positions that a client is sent and sends back. A position of a document comes back as it was if its
line and its code units fit into the numbers of a client. If they do not, they lose their upper
bits; then another line is meant, or so few code units that fewer characters cover them.
-/

namespace QuickFix

namespace Text

/-- Two code units less are covered by fewer characters. -/
theorem charsCovering_lt {cs : List Char} {n count : Nat} (hcount : count + 2 ≤ unitsBefore cs n) :
    charsCovering cs count < n := by
  cases n with
  | zero => exact absurd hcount (Nat.not_succ_le_zero _)
  | succ n =>
      have hstep := unitsBefore_succ_le cs n
      have hunits := unitsBefore_le_units cs (n + 1)
      exact Nat.lt_succ_of_le ((charsCovering_le_iff (by omega)).mpr (by omega))

end Text

namespace Document

variable {d : Document} {p : Position} {r : Range}

/-- A position that comes back has numbers that a client can hold. -/
theorem counts_of_ofClient_toClient (hreturns : d.ofClient (d.toClient p) = p) : d.Counts p := by
  have hline : (UInt32.ofNat p.line).toNat = p.line := congrArg Position.line hreturns
  have hcolumn : Text.charsCovering ((d.line? (UInt32.ofNat p.line).toNat).getD [])
      (UInt32.ofNat (Text.unitsBefore ((d.line? p.line).getD []) p.column)).toNat = p.column :=
    congrArg Position.column hreturns
  refine ⟨hline ▸ UInt32.toNat_lt _, ?_⟩
  by_contra hlarge
  rw [hline, UInt32.toNat_ofNat'] at hcolumn
  refine absurd hcolumn (Nat.ne_of_lt (Text.charsCovering_lt ?_))
  omega

theorem ofClient_toClient_iff (hadmits : d.Admits p) :
    d.ofClient (d.toClient p) = p ↔ d.Counts p :=
  ⟨counts_of_ofClient_toClient, ofClient_toClient hadmits⟩

theorem ofClientRange_toClientRange_iff (hstart : d.Admits r.start) (hstop : d.Admits r.stop) :
    d.ofClientRange (d.toClientRange r) = r ↔ d.Counts r.start ∧ d.Counts r.stop := by
  rw [← ofClient_toClient_iff hstart, ← ofClient_toClient_iff hstop]
  exact Range.mk.injEq .. ▸ Iff.rfl

/-- Characters and code units count each other, so a range of a document comes back from a client
exactly if its numbers fit. -/
theorem ranges_come_back :
    (∀ cs, Text.CountsUnits cs) ∧
      ∀ (d : Document) (r : Range), d.HasPosition r.start → d.HasPosition r.stop →
        (d.ofClientRange (d.toClientRange r) = r ↔ d.Counts r.start ∧ d.Counts r.stop) :=
  ⟨Text.countsUnits, fun _ _ hstart hstop =>
    ofClientRange_toClientRange_iff (.inl hstart) (.inl hstop)⟩

end Document

namespace ClientPositionWitness

def document : Document := .ofText ⟨"/a"⟩ "rust" "a😀b\nc"

/-- From behind a character of two code units to the end of the next line. -/
def range : Range := ⟨⟨0, 2⟩, ⟨1, 1⟩⟩

theorem toClientRange_range : document.toClientRange range = ⟨⟨0, 3⟩, ⟨1, 1⟩⟩ := by cbv

theorem counts_range : document.Counts range.start ∧ document.Counts range.stop := by
  have hfirst : Text.unitsBefore ((document.line? 0).getD []) 2 = 3 := by cbv
  have hsecond : Text.unitsBefore ((document.line? 1).getD []) 1 = 1 := by cbv
  exact ⟨⟨by decide, hfirst ▸ by decide⟩, ⟨by decide, hsecond ▸ by decide⟩⟩

theorem wide_range_comes_back :
    document.HasPosition range.start ∧ document.HasPosition range.stop ∧
      document.ofClientRange ⟨⟨0, 3⟩, ⟨1, 1⟩⟩ = range := by
  have hstart : document.HasPosition range.start := ⟨['a', '😀', 'b'], by cbv, by decide⟩
  have hstop : document.HasPosition range.stop := ⟨['c'], by cbv, by decide⟩
  refine ⟨hstart, hstop, ?_⟩
  rw [← toClientRange_range]
  exact (Document.ranges_come_back.2 document range hstart hstop).mpr counts_range

end ClientPositionWitness

end QuickFix
