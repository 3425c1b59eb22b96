import Mathlib.Logic.Function.Iterate
import Screening.Proofs.Expr.Comparisons

/-!
# Walking an expression with a stack

A node is taken off the end of a stack and its conditions are put there in reverse, so the first one
is next. Each step takes one node, and what was met followed by what the stack will still give is
always the same: `listing_step`. So the walk is over after as many steps as there are nodes, and not
before: `stack_steps_eq_nil`. It has met the comparisons from left to right, one for each place where
one stands: `met_steps`, `listsPlaces`.
-/

namespace Screening.Expr

/-! ### Steps -/

/-- A walk under way. The node at the end of the stack is next. -/
structure Walk where
  stack : List Expr
  met : List Comparison

namespace Walk

def start (e : Expr) : Walk := ⟨[e], []⟩

/-- Meet a comparison, or put the conditions of another node on the stack. -/
def take (w : Walk) : Expr → Walk
  | .comparison c => ⟨w.stack, w.met ++ [c]⟩
  | .all cs => ⟨w.stack ++ cs.reverse, w.met⟩
  | .any cs => ⟨w.stack ++ cs.reverse, w.met⟩
  | .not e => ⟨w.stack ++ [e].reverse, w.met⟩

def step (w : Walk) : Walk :=
  match w.stack.getLast? with
  | some e => take ⟨w.stack.dropLast, w.met⟩ e
  | none => w

/-- What was met, and what the stack will still give. -/
def listing (w : Walk) : List Comparison := w.met ++ visit w.stack.reverse

theorem step_concat (rest : List Expr) (met : List Comparison) (e : Expr) :
    step ⟨rest ++ [e], met⟩ = take ⟨rest, met⟩ e := by
  simp [step]

theorem listing_step (w : Walk) : w.step.listing = w.listing := by
  obtain ⟨stack, met⟩ := w
  rcases List.eq_nil_or_concat' stack with rfl | ⟨rest, e, rfl⟩
  · rfl
  · rw [step_concat]
    cases e <;> simp [take, listing, visit]

theorem sizeAll_reverse (es : List Expr) : sizeAll es.reverse = sizeAll es := by
  induction es with
  | nil => rfl
  | cons e es ih => simp [sizeAll, ih, Nat.add_comm]

theorem sizeAll_step (w : Walk) : sizeAll w.step.stack = sizeAll w.stack - 1 := by
  obtain ⟨stack, met⟩ := w
  rcases List.eq_nil_or_concat' stack with rfl | ⟨rest, e, rfl⟩
  · rfl
  · rw [step_concat]
    cases e <;> simp [take, sizeAll, size, sizeAll_reverse]

theorem sizeAll_eq_zero {es : List Expr} : sizeAll es = 0 ↔ es = [] := by
  cases es with
  | nil => simp [sizeAll]
  | cons e es =>
    have filled := e.size_pos
    simp only [sizeAll, reduceCtorEq, iff_false]
    omega

/-! ### The whole walk -/

theorem listing_steps (w : Walk) (n : Nat) : (step^[n] w).listing = w.listing := by
  induction n generalizing w with
  | zero => rfl
  | succ n ih => rw [Function.iterate_succ_apply, ih, listing_step]

theorem sizeAll_steps (w : Walk) (n : Nat) :
    sizeAll (step^[n] w).stack = sizeAll w.stack - n := by
  induction n generalizing w with
  | zero => rfl
  | succ n ih => rw [Function.iterate_succ_apply, ih, sizeAll_step, Nat.sub_sub, Nat.add_comm]

/-- The walk is over after as many steps as there are nodes, and not before. -/
theorem stack_steps_eq_nil (e : Expr) (n : Nat) :
    (step^[n] (start e)).stack = [] ↔ e.size ≤ n := by
  rw [← sizeAll_eq_zero, sizeAll_steps]
  simp only [start, sizeAll]
  omega

theorem met_steps (e : Expr) {n : Nat} (enough : e.size ≤ n) :
    (step^[n] (start e)).met = visit [e] := by
  have listed := listing_steps (start e) n
  rw [listing, (stack_steps_eq_nil e n).mpr enough] at listed
  simpa [listing, start, visit] using listed

end Walk

/-! ### Places -/

def conditions : Expr → List Expr
  | .comparison _ => []
  | .all cs => cs
  | .any cs => cs
  | .not e => [e]

/-- What stands at a place, which is told by the number of the condition to follow at each node. -/
def at? : Expr → List Nat → Option Expr
  | e, [] => some e
  | e, n :: place => (e.conditions[n]?).bind fun c => c.at? place

mutual

/-- The places where comparisons stand, from left to right. -/
def places : Expr → List (List Nat)
  | .comparison _ => [[]]
  | .all cs => placesFrom 0 cs
  | .any cs => placesFrom 0 cs
  | .not e => e.places.map (0 :: ·)

/-- The places in conditions that are numbered from `n`. -/
def placesFrom (n : Nat) : List Expr → List (List Nat)
  | [] => []
  | e :: es => e.places.map (n :: ·) ++ placesFrom (n + 1) es

end

/-- The comparisons that are met are those of the expression, each place once, from left to right. -/
structure ListsPlaces (e : Expr) (met : List Comparison) (places : List (List Nat)) : Prop where
  ordered : places.Pairwise (· < ·)
  complete : ∀ place, place ∈ places ↔ ∃ c, e.at? place = some (.comparison c)
  met : places.map e.at? = met.map fun c => some (.comparison c)

theorem placesFrom_eq_flatMap (n : Nat) (cs : List Expr) :
    placesFrom n cs = (cs.zipIdx n).flatMap fun x => x.1.places.map (x.2 :: ·) := by
  induction cs generalizing n with
  | nil => rfl
  | cons e es ih => rw [placesFrom, ih, List.zipIdx_cons, List.flatMap_cons]

theorem comparisonsAll_eq_flatMap (n : Nat) (cs : List Expr) :
    comparisonsAll cs = (cs.zipIdx n).flatMap fun x => x.1.comparisons := by
  induction cs generalizing n with
  | nil => rfl
  | cons e es ih => rw [comparisonsAll, ih (n + 1), List.zipIdx_cons, List.flatMap_cons]

theorem zipIdx_ordered (cs : List Expr) : cs.zipIdx.Pairwise fun x y => x.2 < y.2 := by
  have numbers : (cs.zipIdx.map Prod.snd).Pairwise (· < ·) := by
    rw [List.zipIdx_map_snd]
    exact List.pairwise_lt_range'
  exact List.pairwise_map.mp numbers

variable {e : Expr}

theorem ordered_node (each : ∀ c ∈ e.conditions, c.places.Pairwise (· < ·)) :
    (placesFrom 0 e.conditions).Pairwise (· < ·) := by
  rw [placesFrom_eq_flatMap, List.pairwise_flatMap]
  refine ⟨fun x member => ?_, (zipIdx_ordered _).imp fun {x y} before => ?_⟩
  · rw [List.pairwise_map]
    exact (each x.1 (List.fst_mem_of_mem_zipIdx member)).imp List.cons_lt_cons_self.mpr
  · simp only [List.mem_map]
    rintro _ ⟨p, _, rfl⟩ _ ⟨q, _, rfl⟩
    exact List.cons_lt_cons_iff.mpr (Or.inl before)

theorem complete_node (combined : ∀ c, e ≠ .comparison c)
    (each : ∀ c ∈ e.conditions, ∀ place, place ∈ c.places ↔ ∃ d, c.at? place = some (.comparison d))
    (place : List Nat) :
    place ∈ placesFrom 0 e.conditions ↔ ∃ d, e.at? place = some (.comparison d) := by
  rw [placesFrom_eq_flatMap, List.mem_flatMap]
  constructor
  · rintro ⟨⟨c, n⟩, member, listed⟩
    obtain ⟨inner, own, rfl⟩ := List.mem_map.mp listed
    obtain ⟨d, stands⟩ := (each c (List.fst_mem_of_mem_zipIdx member) inner).mp own
    refine ⟨d, ?_⟩
    rw [at?, List.mem_zipIdx_iff_getElem?.mp member]
    exact stands
  · rintro ⟨d, stands⟩
    cases place with
    | nil => exact absurd (Option.some.inj stands) (combined d)
    | cons n inner =>
      obtain ⟨c, nth, stands⟩ := Option.bind_eq_some_iff.mp stands
      have member : (c, n) ∈ e.conditions.zipIdx := List.mem_zipIdx_iff_getElem?.mpr nth
      have own := (each c (List.fst_mem_of_mem_zipIdx member) inner).mpr ⟨d, stands⟩
      exact ⟨(c, n), member, List.mem_map_of_mem own⟩

theorem met_node (each : ∀ c ∈ e.conditions,
      c.places.map c.at? = c.comparisons.map fun d => some (.comparison d)) :
    (placesFrom 0 e.conditions).map e.at? =
      (comparisonsAll e.conditions).map fun d => some (.comparison d) := by
  rw [placesFrom_eq_flatMap, comparisonsAll_eq_flatMap 0, List.map_flatMap, List.map_flatMap]
  refine List.flatMap_congr fun x member => ?_
  rw [← each x.1 (List.fst_mem_of_mem_zipIdx member), List.map_map]
  refine List.map_congr_left fun place _ => ?_
  show (e.conditions[x.2]?).bind _ = _
  rw [List.mem_zipIdx_iff_getElem?.mp member]
  rfl

theorem listsPlaces_node (combined : ∀ c, e ≠ .comparison c)
    (each : ∀ c ∈ e.conditions, c.ListsPlaces c.comparisons c.places) :
    e.ListsPlaces (comparisonsAll e.conditions) (placesFrom 0 e.conditions) where
  ordered := ordered_node fun c member => (each c member).ordered
  complete := complete_node combined fun c member => (each c member).complete
  met := met_node fun c member => (each c member).met

theorem listsPlaces (e : Expr) : e.ListsPlaces e.comparisons e.places := by
  induction e with
  | comparison c =>
    refine ⟨List.pairwise_singleton _ _, fun place => ?_, rfl⟩
    cases place <;> simp [places, at?, conditions]
  | all cs ih => exact listsPlaces_node (fun _ => by simp) ih
  | any cs ih => exact listsPlaces_node (fun _ => by simp) ih
  | not e ih =>
    have listed := listsPlaces_node (e := .not e) (fun _ => by simp) (by simpa [conditions] using ih)
    simpa [conditions, places, placesFrom, comparisons, comparisonsAll] using listed

/-- There is only one such list. -/
theorem ListsPlaces.unique {met met' : List Comparison} {places places' : List (List Nat)}
    (lists : e.ListsPlaces met places) (lists' : e.ListsPlaces met' places') : met = met' := by
  have distinct {ps : List (List Nat)} (ordered : ps.Pairwise (· < ·)) : ps.Nodup :=
    ordered.imp fun before same => absurd (same ▸ before) (List.lt_irrefl _)
  have reordered : places.Perm places' :=
    (List.perm_ext_iff_of_nodup (distinct lists.ordered) (distinct lists'.ordered)).mpr fun place =>
      (lists.complete place).trans (lists'.complete place).symm
  have same : places = places' := reordered.eq_of_pairwise
    (fun _ _ _ _ before after => absurd (List.lt_trans before after) (List.lt_irrefl _))
    lists.ordered lists'.ordered
  have stands := lists.met
  rw [same, lists'.met] at stands
  refine ((List.map_inj_right fun c d equal => ?_).mp stands).symm
  exact Expr.comparison.inj (Option.some.inj equal)

end Screening.Expr
