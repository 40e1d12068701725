import Mathlib.Data.List.Perm.Basic

/-! # Pruned walks of a search tree

A walk that asks at every node on which sides to go on collects all the nodes that are wanted,
however the tree is balanced, as long as it only turns away from sides where nothing is wanted.
-/

namespace Nchan.Lib

open List

inductive Tree (α : Type*) where
  | leaf
  | node (left : Tree α) (a : α) (right : Tree α)

inductive Direction where
  | left | right | leftRight | stop
  deriving DecidableEq

namespace Tree

variable {α : Type*}

@[simp] def inorder : Tree α → List α
  | leaf => []
  | node left a right => left.inorder ++ a :: right.inorder

/-- Visit nodes before their subtrees.  `visit` says whether to collect the node and where to go
    on; it may fail, and then the walk does. -/
def conditionalWalk (visit : α → Option (Bool × Direction)) : Tree α → Option (List α)
  | leaf => some []
  | node left a right =>
    (visit a).bind fun (collect, direction) =>
      let here := if collect then [a] else []
      match direction with
      | .left => (left.conditionalWalk visit).map (here ++ ·)
      | .right => (right.conditionalWalk visit).map (here ++ ·)
      | .leftRight =>
        (left.conditionalWalk visit).bind fun lefts =>
          (right.conditionalWalk visit).map fun rights => here ++ lefts ++ rights
      | .stop => some here

/-- The sides a walk turns away from have nothing that is wanted. -/
def Prunes (wanted : α → Bool) (direction : α → Direction) (t : Tree α) : Prop :=
  t.inorder.Pairwise fun before after =>
    (direction after = .right → wanted before = false) ∧
    (direction before = .left → wanted after = false)

/-- No node turns the walk away from a side with something that is wanted. -/
def InSight (wanted : α → Bool) (direction : α → Direction) : Tree α → Prop
  | leaf => True
  | node left a right =>
    (direction a = .right → left.inorder.filter wanted = []) ∧
    (direction a = .left → right.inorder.filter wanted = []) ∧
    left.InSight wanted direction ∧ right.InSight wanted direction

theorem filter_eq_nil {wanted : α → Bool} {xs : List α} (none : ∀ x ∈ xs, wanted x = false) :
    xs.filter wanted = [] :=
  filter_eq_nil_iff.mpr fun x on => by simp [none x on]

theorem filter_inorder_node (wanted : α → Bool) (left right : Tree α) (a : α) :
    (node left a right).inorder.filter wanted
      = left.inorder.filter wanted ++ ([a].filter wanted ++ right.inorder.filter wanted) := by
  rw [inorder, ← singleton_append, filter_append, filter_append]

theorem Prunes.inSight {wanted : α → Bool} {direction : α → Direction} {t : Tree α}
    (prunes : t.Prunes wanted direction) : t.InSight wanted direction := by
  induction t with
  | leaf => trivial
  | node left a right ihLeft ihRight =>
    obtain ⟨leftPrunes, rest, across⟩ := pairwise_append.mp prunes
    obtain ⟨afters, rightPrunes⟩ := pairwise_cons.mp rest
    refine ⟨fun turn => filter_eq_nil fun b on => ?_, fun turn => filter_eq_nil fun b on => ?_,
      ihLeft leftPrunes, ihRight rightPrunes⟩
    · exact (across b on a mem_cons_self).1 turn
    · exact (afters b on).2 turn

section Walk

variable {visit : α → Option (Bool × Direction)} {wanted : α → Bool} {direction : α → Direction}
  {t : Tree α}

variable (visits : ∀ a ∈ t.inorder, visit a = some (wanted a, direction a) ∧ direction a ≠ .stop)

include visits

/-- A walk collects nothing that is not wanted, and all that is wanted just if nothing of it is
    out of sight. -/
theorem conditionalWalk_spec :
    ∃ out, t.conditionalWalk visit = some out ∧ out.Subperm (t.inorder.filter wanted) ∧
      ((t.inorder.filter wanted).length ≤ out.length ↔ t.InSight wanted direction) := by
  induction t with
  | leaf => exact ⟨[], rfl, nil_subperm, by simp [InSight]⟩
  | node left a right ihLeft ihRight =>
    obtain ⟨visited, goesOn⟩ := visits a (by simp)
    obtain ⟨lefts, leftWalk, leftSub, leftSight⟩ :=
      ihLeft fun b on => visits b (by simp [on])
    obtain ⟨rights, rightWalk, rightSub, rightSight⟩ :=
      ihRight fun b on => visits b (by simp [on])
    have here : (if wanted a then [a] else []) = [a].filter wanted := by
      cases want : wanted a <;> simp [want]
    have leftLength := leftSub.length_le
    have rightLength := rightSub.length_le
    have shuffle (part : List α) : (left.inorder.filter wanted ++ ([a].filter wanted ++ part)).Perm
        ([a].filter wanted ++ left.inorder.filter wanted ++ part) := by
      rw [← append_assoc]
      exact perm_append_comm.append_right _
    rw [filter_inorder_node, InSight, ← leftSight, ← rightSight]
    cases turn : direction a with
    | stop => exact absurd turn goesOn
    | left =>
      refine ⟨[a].filter wanted ++ lefts, ?_, ?_, ?_⟩
      · simp [conditionalWalk, visited, turn, leftWalk, here]
      · refine List.Subperm.trans ?_ (shuffle _).symm.subperm
        exact ((subperm_append_left _).mpr leftSub).trans
          (sublist_append_left _ _).subperm
      · simp only [length_append, ← length_eq_zero_iff, reduceCtorEq, false_implies,
          true_implies, true_and]
        omega
    | right =>
      refine ⟨[a].filter wanted ++ rights, ?_, ?_, ?_⟩
      · simp [conditionalWalk, visited, turn, rightWalk, here]
      · exact ((subperm_append_left _).mpr rightSub).trans
          (sublist_append_right _ _).subperm
      · simp only [length_append, ← length_eq_zero_iff, reduceCtorEq, false_implies,
          true_implies, true_and]
        omega
    | leftRight =>
      refine ⟨[a].filter wanted ++ lefts ++ rights, ?_, ?_, ?_⟩
      · simp [conditionalWalk, visited, turn, leftWalk, rightWalk, here]
      · refine List.Subperm.trans ?_ (shuffle _).symm.subperm
        exact ((subperm_append_left _).mpr rightSub).trans
          ((subperm_append_right _).mpr ((subperm_append_left _).mpr leftSub))
      · simp only [length_append, reduceCtorEq, false_implies, true_and]
        omega

theorem conditionalWalk_perm_iff :
    (∃ out, t.conditionalWalk visit = some out ∧ out.Perm (t.inorder.filter wanted)) ↔
      t.InSight wanted direction := by
  obtain ⟨out, walk, sub, sight⟩ := conditionalWalk_spec visits
  rw [← sight]
  constructor
  · rintro ⟨out', walk', perm⟩
    obtain rfl := Option.some.inj (walk.symm.trans walk')
    exact Nat.le_of_eq perm.length_eq.symm
  · exact fun enough => ⟨out, walk, sub.perm_of_length_le enough⟩

theorem conditionalWalk_perm
    (prunes : t.Prunes wanted direction) :
    ∃ out, t.conditionalWalk visit = some out ∧ out.Perm (t.inorder.filter wanted) :=
  (conditionalWalk_perm_iff visits).mpr prunes.inSight

end Walk

/-! ## Inserting -/

/-- Go down to a free place, left or right of each node on the way. -/
def insert (goesLeft : α → Bool) (new : α) : Tree α → Tree α
  | leaf => node leaf new leaf
  | node left a right =>
    if goesLeft a then node (left.insert goesLeft new) a right
    else node left a (right.insert goesLeft new)

section Insert

variable {goesLeft : α → Bool} {new : α} {t : Tree α}

theorem inorder_insert_perm (goesLeft : α → Bool) (new : α) (t : Tree α) :
    (t.insert goesLeft new).inorder.Perm (new :: t.inorder) := by
  induction t with
  | leaf => exact .refl _
  | node left a right ihLeft ihRight =>
    rw [insert]
    split
    · exact ihLeft.append_right _
    · exact ((ihRight.cons a).trans (.swap _ _ _)).append_left _ |>.trans perm_middle

theorem inorder_insert_pairwise {lt : α → α → Prop}
    (trans : ∀ a b c, lt a b → lt b c → lt a c)
    (lefts : ∀ a ∈ t.inorder, goesLeft a → lt new a)
    (rights : ∀ a ∈ t.inorder, ¬ goesLeft a → lt a new) (sorted : t.inorder.Pairwise lt) :
    (t.insert goesLeft new).inorder.Pairwise lt := by
  induction t with
  | leaf => exact pairwise_singleton lt new
  | node left a right ihLeft ihRight =>
    obtain ⟨leftSorted, rest, across⟩ := pairwise_append.mp sorted
    obtain ⟨afters, rightSorted⟩ := pairwise_cons.mp rest
    have inside (b : α) : b ∈ (left.insert goesLeft new).inorder ↔ b = new ∨ b ∈ left.inorder := by
      rw [(inorder_insert_perm goesLeft new left).mem_iff, mem_cons]
    have inside' (b : α) :
        b ∈ (right.insert goesLeft new).inorder ↔ b = new ∨ b ∈ right.inorder := by
      rw [(inorder_insert_perm goesLeft new right).mem_iff, mem_cons]
    rw [insert]
    split
    · rename_i turn
      have before := lefts a (by simp) turn
      refine pairwise_append.mpr ⟨ihLeft (fun b on => lefts b (by simp [on]))
        (fun b on => rights b (by simp [on])) leftSorted, rest, fun b on c on' => ?_⟩
      rcases (inside b).mp on with rfl | on
      · rcases mem_cons.mp on' with rfl | on'
        · exact before
        · exact trans _ _ _ before (afters c on')
      · exact across b on c on'
    · rename_i turn
      have after := rights a (by simp) turn
      refine pairwise_append.mpr ⟨leftSorted, pairwise_cons.mpr ⟨fun b on => ?_,
        ihRight (fun b on => lefts b (by simp [on]))
          (fun b on => rights b (by simp [on])) rightSorted⟩, fun b on c on' => ?_⟩
      · rcases (inside' b).mp on with rfl | on
        · exact after
        · exact afters b on
      · have lower := across b on a mem_cons_self
        rcases mem_cons.mp on' with rfl | on'
        · exact lower
        · rcases (inside' c).mp on' with rfl | on'
          · exact trans _ _ _ lower after
          · exact across b on c (mem_cons_of_mem a on')

end Insert

end Tree

end Nchan.Lib
