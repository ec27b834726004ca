import Intercept.Bytes

/-!
# The define that names the compiler

A build passes the name and version of its compiler as the value of a define. The build's own shell
has removed the quotes around that value, so a second shell would take it apart at its blanks:
before the define is passed on, its value is put in quotes again.
-/

namespace Intercept.Define

/-- What the define's token begins with; its value follows. -/
def marker : Bytes :=
  Bytes.ofChars ['-', 'D', '_', '_', 'L', 'I', 'B', 'U', 'K', 'L', 'I', 'B', 'I', 'D', '_', 'C',
    'O', 'M', 'P', 'I', 'L', 'E', 'R', '_', '_', '=']

/-- The define with the given value between quotes. A blank separates the value from the closing
quote. -/
def quoted (value : Bytes) : Bytes :=
  marker ++ Bytes.quote :: value ++ [Bytes.space, Bytes.quote]

/-- The value of the define, if the token is one. -/
def value? (token : Bytes) : Option Bytes := Bytes.dropStart? marker token

/-- The quoted form of the define, if the token is one. -/
def requote? (token : Bytes) : Option Bytes := (value? token).map quoted

theorem requote?_marker_append (value : Bytes) :
    requote? (marker ++ value) = some (quoted value) := by
  simp [requote?, value?, Bytes.dropStart?_append]

theorem requote?_eq (token : Bytes) :
    requote? token =
      if marker <+: token then some (quoted (token.drop marker.length)) else none := by
  by_cases define : marker <+: token
  · obtain ⟨value, rfl⟩ := define
    rw [requote?_marker_append, if_pos (List.prefix_append _ _), List.drop_left]
  · have other : value? token = none := by
      refine Option.eq_none_iff_forall_ne_some.mpr fun value found => define ⟨value, ?_⟩
      exact (Bytes.eq_append_of_dropStart? found).symm
    rw [requote?, other, if_neg define]
    rfl

end Intercept.Define
