import PolicyStore.Json.Fault

/-!
# Places in a text of one line

Up to a line break a place in a text is on the first line, in the column that counts the bytes before it.
-/

namespace PolicyStore.Json

theorem foldl_utf8Size (total : Nat) (s : List Char) :
    s.foldl (fun total c => total + c.utf8Size) total = total + Text.byteLength s := by
  induction s generalizing total with
  | nil => rfl
  | cons c s ih =>
    rw [Text.byteLength, List.foldl_cons, List.foldl_cons, ih, ih (0 + c.utf8Size), Nat.zero_add,
      Nat.add_assoc]

theorem byteLength_append (s t : List Char) :
    Text.byteLength (s ++ t) = Text.byteLength s + Text.byteLength t := by
  rw [Text.byteLength, List.foldl_append]
  exact foldl_utf8Size (Text.byteLength s) t

theorem byteLength_cons (c : Char) (s : List Char) :
    Text.byteLength (c :: s) = c.utf8Size + Text.byteLength s := by
  rw [Text.byteLength, List.foldl_cons, foldl_utf8Size, Nat.zero_add]

theorem Position.advance_line {front : List Char} (h : '\n' ∉ front) (p : Position)
    (rest : List Char) :
    p.advance (Text.byteLength front) (front ++ rest) =
      ⟨p.line, p.column + Text.byteLength front⟩ := by
  induction front generalizing p with
  | nil =>
    cases rest with
    | nil => rfl
    | cons c rest => exact if_pos c.utf8Size_pos
  | cons c front ih =>
    obtain ⟨hc, hfront⟩ := not_or.mp fun hmem => h (List.mem_cons.mpr hmem)
    have hlong : ¬c.utf8Size + Text.byteLength front < c.utf8Size := by omega
    rw [List.cons_append, byteLength_cons, advance, if_neg hlong, if_neg (Ne.symm hc),
      Nat.add_sub_cancel_left, ih hfront]
    simp only [Nat.add_assoc]

/-- What is unread at a fault comes after the column of its place. -/
theorem Fault.position_line {front : List Char} (h : '\n' ∉ front) (cause : Cause)
    (rest : List Char) :
    (Fault.here cause rest).position (front ++ rest) = ⟨1, Text.byteLength front⟩ := by
  have hbefore : Text.byteLength (front ++ rest) - Text.byteLength rest = Text.byteLength front := by
    rw [byteLength_append, Nat.add_sub_cancel]
  change Position.advance ⟨1, 0⟩ (Text.byteLength (front ++ rest) - Text.byteLength rest) _ = _
  rw [hbefore, Position.advance_line h, Nat.zero_add]

end PolicyStore.Json
