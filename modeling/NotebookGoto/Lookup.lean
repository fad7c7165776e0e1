import NotebookGoto.Text.Decimal

/-!
# Lookups

A lookup asks for the definition of what stands at a cursor: the source that is looked at, the
cursor in it and the path under which the source is known. Lines count from one and columns from
zero, so a lookup at line zero asks for nothing that exists.
-/

namespace NotebookGoto

/-- A cursor in a source. -/
structure Lookup where
  source : String
  line : UInt32
  column : UInt32
  path : String
  deriving DecidableEq, Repr

/-- Whether the cursor stands on a line. -/
def Lookup.OnLine (l : Lookup) : Prop :=
  l.line ≠ 0

instance (l : Lookup) : Decidable l.OnLine :=
  inferInstanceAs (Decidable (_ ≠ _))

theorem one_le_line_iff {line : UInt32} : 1 ≤ line ↔ line ≠ 0 := by
  rw [UInt32.le_iff_toNat_le, Ne, ← UInt32.toNat_inj, UInt32.toNat_one, UInt32.toNat_zero]
  omega

end NotebookGoto
