import Attachments.Sorting.Run

/-!
Contract: two neighbouring runs become one.

Owns:
- what is left in place at both ends, and which end the rest is merged from;
- the change between taking item by item and taking whole stretches;
- the patience that this change depends on, which outlasts a merge;
- that no item is lost.

Does not own: the comparison. Of two items of which neither comes before the other, the one of the
left run stays at the left.
-/

namespace Attachments.Sorting

variable {Item Failure : Type}

/-- How a merge goes on: item by item, with the lengths of the present streaks, or by a search for
the items that one run gives before the next item of the other. -/
inductive Pace where
  | stepping (leftStreak rightStreak : Nat)
  | searchingLeft
  | searchingRight (leftCount : Nat)

/-- The length of a stretch from which on searching goes on to pay. -/
def worthwhile : Nat :=
  7

/-- The pace after one item, with the streaks that it leaves. -/
def Pace.afterStep (patience leftStreak rightStreak : Nat) : Pace :=
  if max leftStreak rightStreak < patience then .stepping leftStreak rightStreak
  else .searchingLeft

/-- The pace and the patience after a search in both runs. -/
def Pace.afterSearch (patience leftCount rightCount : Nat) : Pace × Nat :=
  if worthwhile ≤ max leftCount rightCount then (.searchingLeft, max 1 (patience - 1))
  else (.stepping 0 0, patience + 1)

/-- Whether the right run gives the next item. A merge that goes backward takes the items from the
ends of the runs, the greatest first. Of equal items the left one is to stay at the left. -/
def rightIsNext
    (before : Item → Item → Except Failure Bool)
    (backward : Bool)
    (left right : Item) :
    Except Failure Bool :=
  (before right left).map (· != backward)

/-- Whether a merge needs no more comparisons: a run is used up, or only the last item is left of
the run that is known to reach further. That is the left run going forward and the right run going
backward. -/
def decided (backward : Bool) (left right : List Item) : Bool :=
  if backward then left.isEmpty || right.length ≤ 1 else right.isEmpty || left.length ≤ 1

/-- What is left of the runs once a merge is decided, in the order in which it is taken. -/
def remainder (backward : Bool) (left right : List Item) : List Item :=
  if backward then left ++ right else right ++ left

/-- Merges two runs, whose items are given in the order in which they are taken. A streak as long as
the patience starts the search for whole stretches; patience shrinks as long as that pays and grows
when it ends. Gives the patience at the end too, which is `kept` if the merge is decided. -/
def mergeAt
    (before : Item → Item → Except Failure Bool)
    (backward : Bool)
    (pace : Pace)
    (kept patience : Nat)
    (left right : List Item) :
    Except Failure (List Item × Nat) :=
  if decided backward left right then .ok (remainder backward left right, kept)
  else
    match pace, left, right with
    | .stepping leftStreak rightStreak, leftFirst :: leftRest, rightFirst :: rightRest => do
      if ← rightIsNext before backward leftFirst rightFirst then
        let (merged, final) ←
          mergeAt before backward (.afterStep patience 0 (rightStreak + 1)) patience patience
            (leftFirst :: leftRest) rightRest
        .ok (rightFirst :: merged, final)
      else
        let (merged, final) ←
          mergeAt before backward (.afterStep patience (leftStreak + 1) 0) patience patience
            leftRest (rightFirst :: rightRest)
        .ok (leftFirst :: merged, final)
    | .searchingLeft, left, rightFirst :: rightRest => do
      let count ← countFromStart backward
        (fun item => (rightIsNext before backward item rightFirst).map (!·)) left
      let (merged, final) ←
        mergeAt before backward (.searchingRight count) patience patience
          (left.drop count) rightRest
      .ok (left.take count ++ rightFirst :: merged, final)
    | .searchingRight leftCount, leftFirst :: leftRest, right => do
      let count ← countFromStart backward (rightIsNext before backward leftFirst) right
      let (pace, next) := Pace.afterSearch patience leftCount count
      let (merged, final) ←
        mergeAt before backward pace patience next leftRest (right.drop count)
      .ok (right.take count ++ leftFirst :: merged, final)
    | _, left, right => .ok (remainder backward left right, kept)
termination_by left.length + right.length
decreasing_by
  all_goals
    simp only [List.length_cons, List.length_drop]
    omega

/-- Merges two runs of which no part can stay in place: forward if the left run is not the longer
one, else backward. The first item to take is known without a comparison. It is the first one of
the right run going forward and the last one of the left run going backward. -/
def mergeMoving
    (before : Item → Item → Except Failure Bool)
    (patience : Nat)
    (left right : List Item) :
    Except Failure (List Item × Nat) :=
  if left.length ≤ right.length then
    match right with
    | [] => .ok (left, patience)
    | first :: others => do
      let (merged, final) ←
        mergeAt before false (.stepping 0 0) patience patience left others
      .ok (first :: merged, final)
  else
    match left.reverse with
    | [] => .ok (right, patience)
    | last :: others => do
      let (merged, final) ←
        mergeAt before true (.stepping 0 0) patience patience others right.reverse
      .ok ((last :: merged).reverse, final)

/-- Merges two neighbouring runs with the patience that the merges before have left. Items at the
start of the left run that stay in place are set apart first, then those at the end of the right
run. -/
def merge
    (before : Item → Item → Except Failure Bool)
    (patience : Nat)
    (left right : List Item) :
    Except Failure (List Item × Nat) :=
  match right with
  | [] => .ok (left, patience)
  | first :: others => do
    let low ← countFromStart false (fun item => (before first item).map (!·)) left
    match (left.drop low).getLast? with
    | none => .ok (left ++ first :: others, patience)
    | some last => do
      let high ←
        countFromStart true (fun item => (before item last).map (!·)) (first :: others).reverse
      let border := (first :: others).length - high
      let (merged, final) ←
        mergeMoving before patience (left.drop low) ((first :: others).take border)
      .ok (left.take low ++ merged ++ (first :: others).drop border, final)

/-! ## No item is lost -/

section Laws

variable {before : Item → Item → Except Failure Bool}

/-- What is left of two runs holds the items of both. -/
theorem remainder_perm (backward : Bool) (left right : List Item) :
    (remainder backward left right).Perm (left ++ right) := by
  cases backward
  · exact List.perm_append_comm
  · exact List.Perm.refl _

/-- Items of the left run and the next item of the right run may go before what is merged of the
rest. -/
theorem taken_perm
    {item : Item}
    {left right merged : List Item}
    (count : Nat)
    (rest : merged.Perm (left.drop count ++ right)) :
    (left.take count ++ item :: merged).Perm (left ++ item :: right) := by
  have together : (left.take count ++ merged).Perm (left ++ right) := by
    refine (rest.append_left _).trans ?_
    rw [← List.append_assoc, List.take_append_drop]
  exact List.perm_middle.trans ((together.cons item).trans List.perm_middle.symm)

/-- A merge under way keeps the items of both runs. -/
theorem mergeAt_perm
    {backward : Bool}
    {pace : Pace}
    {kept patience final : Nat}
    {left right merged : List Item}
    (found : mergeAt before backward pace kept patience left right = .ok (merged, final)) :
    merged.Perm (left ++ right) := by
  fun_induction mergeAt before backward pace kept patience left right generalizing merged final with
  | case1 =>
    simp only [Except.ok.injEq, Prod.mk.injEq] at found
    rw [← found.1]
    exact remainder_perm _ _ _
  | case2 _ _ _ _ leftFirst leftRest rightFirst rightRest _ rightTaken leftTaken =>
    obtain ⟨isRight, _, found⟩ := bind_eq_ok.1 found
    split at found
    · obtain ⟨⟨others, last⟩, inner, found⟩ := bind_eq_ok.1 found
      simp only [Except.ok.injEq, Prod.mk.injEq] at found
      rw [← found.1]
      exact taken_perm 0 (rightTaken inner)
    · obtain ⟨⟨others, last⟩, inner, found⟩ := bind_eq_ok.1 found
      simp only [Except.ok.injEq, Prod.mk.injEq] at found
      rw [← found.1]
      exact (leftTaken inner).cons leftFirst
  | case3 _ _ _ _ _ _ inductionHypothesis =>
    obtain ⟨count, _, found⟩ := bind_eq_ok.1 found
    obtain ⟨⟨others, last⟩, inner, found⟩ := bind_eq_ok.1 found
    simp only [Except.ok.injEq, Prod.mk.injEq] at found
    rw [← found.1]
    exact taken_perm count (inductionHypothesis count inner)
  | case4 _ _ _ _ _ _ _ inductionHypothesis =>
    obtain ⟨count, _, found⟩ := bind_eq_ok.1 found
    obtain ⟨⟨others, last⟩, inner, found⟩ := bind_eq_ok.1 found
    simp only [Except.ok.injEq, Prod.mk.injEq] at found
    rw [← found.1]
    have rest := (inductionHypothesis count _ _ inner).trans List.perm_append_comm
    exact (taken_perm count rest).trans List.perm_append_comm
  | case5 =>
    simp only [Except.ok.injEq, Prod.mk.injEq] at found
    rw [← found.1]
    exact remainder_perm _ _ _

/-- A merge of runs that move keeps the items of both. -/
theorem mergeMoving_perm
    {patience final : Nat}
    {left right merged : List Item}
    (found : mergeMoving before patience left right = .ok (merged, final)) :
    merged.Perm (left ++ right) := by
  unfold mergeMoving at found
  split at found
  · split at found
    · simp only [Except.ok.injEq, Prod.mk.injEq] at found
      simp [← found.1]
    · obtain ⟨⟨rest, last⟩, inner, found⟩ := bind_eq_ok.1 found
      simp only [Except.ok.injEq, Prod.mk.injEq] at found
      rw [← found.1]
      exact taken_perm 0 (mergeAt_perm inner)
  · split at found
    · rename_i empty
      simp only [Except.ok.injEq, Prod.mk.injEq] at found
      simp [← found.1, List.reverse_eq_nil_iff.1 empty]
    · rename_i last others turned
      obtain ⟨⟨rest, reached⟩, inner, found⟩ := bind_eq_ok.1 found
      simp only [Except.ok.injEq, Prod.mk.injEq] at found
      rw [← found.1]
      have whole : (last :: rest).Perm (left.reverse ++ right.reverse) := by
        rw [turned]
        exact (mergeAt_perm inner).cons last
      exact (List.reverse_perm _).trans
        (whole.trans ((List.reverse_perm left).append (List.reverse_perm right)))

/-- A merge keeps the items of both runs. -/
theorem merge_perm
    {patience final : Nat}
    {left right merged : List Item}
    (found : merge before patience left right = .ok (merged, final)) :
    merged.Perm (left ++ right) := by
  unfold merge at found
  split at found
  · simp only [Except.ok.injEq, Prod.mk.injEq] at found
    simp [← found.1]
  · obtain ⟨low, _, found⟩ := bind_eq_ok.1 found
    split at found
    · simp only [Except.ok.injEq, Prod.mk.injEq] at found
      simp [← found.1]
    · obtain ⟨high, _, found⟩ := bind_eq_ok.1 found
      obtain ⟨⟨middle, reached⟩, inner, found⟩ := bind_eq_ok.1 found
      simp only [Except.ok.injEq, Prod.mk.injEq] at found
      rw [← found.1]
      refine (((mergeMoving_perm inner).append_left _).append_right _).trans ?_
      rw [← List.append_assoc, List.take_append_drop, List.append_assoc, List.take_append_drop]

end Laws

end Attachments.Sorting
