import Rulebook.Http.Route

/-!
# The route of a path

A route without a parameter has one path, which is its template.  The route with a parameter has the
paths that end with one nonempty segment in its place.  No path belongs to two routes, so that the
route that is found for a path is the only one that has it.
-/

namespace Rulebook

theorem Text.after?_eq_some_iff {front text rest : Text} :
    after? front text = some rest ↔ text = front ++ rest := by
  fun_induction after? front text with
  | case1 text => simp
  | case2 => simp
  | case3 f front tail induction => simp [induction]
  | case4 f front c tail other =>
      have apart : ¬(c = f ∧ tail = front ++ rest) := fun same => other same.1.symm
      simp [apart]

namespace Http

/-- What comes before the parameter of the route that has one. -/
def rulesFront : Text :=
  "/rules/".toList

theorem lastSegment?_eq_some_iff {front path segment : Text} :
    lastSegment? front path = some segment ↔
      path = front ++ segment ∧ segment ≠ [] ∧ '/' ∉ segment := by
  unfold lastSegment?
  cases found : Text.after? front path with
  | none =>
      have other : ¬path = front ++ segment := by
        rw [← Text.after?_eq_some_iff, found]
        exact Option.not_mem_none segment
      simp [other]
  | some rest =>
      rw [Text.after?_eq_some_iff] at found
      subst found
      dsimp only
      split
      · next excluded =>
        simp only [Bool.or_eq_true, List.isEmpty_iff, List.contains_iff_mem] at excluded
        simp only [List.append_cancel_left_eq, false_iff, not_and, reduceCtorEq]
        rintro rfl nonempty slashless
        exact slashless (excluded.resolve_left nonempty)
      · next accepted =>
        simp only [Bool.or_eq_true, List.isEmpty_iff, List.contains_iff_mem, not_or] at accepted
        simp only [List.append_cancel_left_eq, Option.some_inj]
        constructor
        · rintro rfl
          exact ⟨rfl, accepted⟩
        · rintro ⟨rfl, _⟩
          rfl

namespace Route

/-- Whether a path belongs to a route, with a segment in place of its parameter. -/
def Leads (path : Text) : Route → Text → Prop
  | .getRule, segment => path = rulesFront ++ segment ∧ segment ≠ [] ∧ '/' ∉ segment
  | route, segment => path = route.template ∧ segment = []

theorem template_ne_of_mem_fixed {route : Route} (member : route ∈ fixed) (segment : Text) :
    route.template ≠ rulesFront ++ segment := by
  have fronts : ∀ route ∈ fixed, route.template.take rulesFront.length ≠ rulesFront := by
    decide
  intro same
  apply fronts route member
  rw [same, List.take_left]

theorem template_injOn_fixed : ∀ route ∈ fixed, ∀ other ∈ fixed,
    route.template = other.template → route = other := by
  decide

theorem leads_of_mem_fixed {route : Route} (member : route ∈ fixed) {path segment : Text} :
    route.Leads path segment ↔ path = route.template ∧ segment = [] := by
  cases route with
  | getRule => exact absurd member (by decide)
  | _ => rfl

theorem eq_getRule_or_mem_fixed (route : Route) : route = getRule ∨ route ∈ fixed := by
  cases route <;> decide

/-- The route that is found for a path is the one that the path belongs to. -/
theorem ofPath?_eq_some_iff {path segment : Text} {route : Route} :
    ofPath? path = some (route, segment) ↔ route.Leads path segment := by
  unfold ofPath?
  cases found : fixed.find? fun route => route.template == path with
  | some known =>
      have member : known ∈ fixed := List.mem_of_find?_eq_some found
      have same : known.template = path := by
        simpa using List.find?_some found
      dsimp only
      rw [Option.some_inj, Prod.mk.injEq]
      constructor
      · rintro ⟨rfl, rfl⟩
        exact (leads_of_mem_fixed member).mpr ⟨same.symm, rfl⟩
      · intro leads
        rcases route.eq_getRule_or_mem_fixed with rfl | isFixed
        · exact absurd (same.trans leads.1) (template_ne_of_mem_fixed member segment)
        · obtain ⟨path_eq, segment_eq⟩ := (leads_of_mem_fixed isFixed).mp leads
          have route_eq := template_injOn_fixed known member route isFixed (same.trans path_eq)
          exact ⟨route_eq, segment_eq.symm⟩
  | none =>
      rw [List.find?_eq_none] at found
      rcases route.eq_getRule_or_mem_fixed with rfl | isFixed
      · rw [Option.map_eq_some_iff]
        constructor
        · rintro ⟨_, segment_found, same⟩
          cases same
          exact lastSegment?_eq_some_iff.mp segment_found
        · intro leads
          exact ⟨segment, lastSegment?_eq_some_iff.mpr leads, rfl⟩
      · constructor
        · rw [Option.map_eq_some_iff]
          rintro ⟨_, _, same⟩
          cases same
          exact absurd isFixed (by decide)
        · intro leads
          obtain ⟨path_eq, _⟩ := (leads_of_mem_fixed isFixed).mp leads
          exact absurd (beq_iff_eq.mpr path_eq.symm) (found route isFixed)

end Route

end Http

end Rulebook
