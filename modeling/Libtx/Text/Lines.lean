import Mathlib.Data.List.Basic

namespace Text

variable {A : Type} (stop : A) (header : List A) [DecidableEq A]

/-- `start` tells whether the text before ends a line. -/
def headed : Bool → List A → List A
  | _, [] => []
  | start, char :: text => (if start then header else []) ++ char :: headed (decide (char = stop)) text

def fresh : Bool → List A → Bool
  | start, [] => start
  | _, char :: text => fresh (decide (char = stop)) text

theorem fresh_append (start : Bool) (front back : List A) :
    fresh stop start (front ++ back) = fresh stop (fresh stop start front) back := by
  induction front generalizing start with
  | nil => rfl
  | cons char front ih => exact ih (decide (char = stop))

theorem headed_append (start : Bool) (front back : List A) :
    headed stop header start (front ++ back) =
      headed stop header start front ++ headed stop header (fresh stop start front) back := by
  induction front generalizing start with
  | nil => rfl
  | cons char front ih =>
      rw [List.cons_append, headed, headed, fresh, ih, List.append_assoc, List.cons_append]

theorem headed_inside (text : List A) (inside : stop ∉ text) : headed stop header false text = text := by
  induction text with
  | nil => rfl
  | cons char text ih =>
      obtain ⟨differ, rest⟩ := not_or.mp (fun member => inside (List.mem_cons.mpr member))
      rw [headed, decide_eq_false (fun same => differ same.symm), ih rest]
      rfl

theorem headed_part (start : Bool) (text : List A) (some_char : text ≠ []) (inside : stop ∉ text) :
    headed stop header start text = (if start then header else []) ++ text := by
  cases text with
  | nil => exact absurd rfl some_char
  | cons char text =>
      obtain ⟨differ, rest⟩ := not_or.mp (fun member => inside (List.mem_cons.mpr member))
      rw [headed, decide_eq_false (fun same => differ same.symm), headed_inside stop header text rest]

theorem fresh_part (start : Bool) (text : List A) (some_char : text ≠ []) (inside : stop ∉ text) :
    fresh stop start text = false := by
  induction text generalizing start with
  | nil => exact absurd rfl some_char
  | cons char text ih =>
      obtain ⟨differ, rest⟩ := not_or.mp (fun member => inside (List.mem_cons.mpr member))
      rw [fresh, decide_eq_false (fun same => differ same.symm)]
      cases text with
      | nil => rfl
      | cons next text => exact ih false (List.cons_ne_nil next text) rest

theorem fresh_concat (start : Bool) (text : List A) (char : A) :
    fresh stop start (text ++ [char]) = decide (char = stop) := by
  rw [fresh_append]
  rfl

theorem headed_concat (start : Bool) (text : List A) (char : A) :
    headed stop header start (text ++ [char]) =
      headed stop header start text ++ (if fresh stop start text then header else []) ++ [char] := by
  rw [headed_append, List.append_assoc]
  rfl

theorem headed_line (start : Bool) (text : List A) (inside : stop ∉ text) :
    headed stop header start (text ++ [stop]) = (if start then header else []) ++ (text ++ [stop]) := by
  cases text with
  | nil => rfl
  | cons char text =>
      have part := List.cons_ne_nil char text
      rw [headed_concat, headed_part stop header start _ part inside, fresh_part stop start _ part inside,
        if_neg Bool.false_ne_true, List.append_nil, List.append_assoc]

theorem headed_last (start : Bool) (text : List A) :
    (headed stop header start text).getLast? = text.getLast? := by
  rcases List.eq_nil_or_concat text with same | ⟨front, char, same⟩
  · subst same
    rfl
  · subst same
    rw [List.concat_eq_append, headed_concat, List.getLast?_concat, List.getLast?_concat]

theorem fresh_iff (text : List A) : fresh stop true text = true ↔ text = [] ∨ text.getLast? = some stop := by
  rcases List.eq_nil_or_concat text with same | ⟨front, char, same⟩
  · subst same
    simp [fresh]
  · subst same
    simp [fresh_concat]

end Text
