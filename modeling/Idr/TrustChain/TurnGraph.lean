/-
Idr/TrustChain/TurnGraph.lean

Which turn candidates are accepted.

The depth-first visit keeps two sets.  The nodes of `visiting` all lead to
the node at hand, so that meeting one of them again is a cycle.  Those of
`visited` are searched: no edge leaves them and no cycle goes through them.
A visit that succeeds leaves the first set as it was, and has searched
the node; one that fails has found a cycle (`visit_explores`).  Every nested call
has one node more in `visiting`, so the calls end (`Visits`), and the result
is exact (`visitNodes_iff`).

A candidate is accepted exactly when its nodes and edges are those of an
acyclic graph, and its mode is the one that the graph asks for
(`validateTurnCandidate_iff`).
-/
import Idr.TrustChain.Payload
import Idr.Protocol.Map
import Idr.Lib.Graph

namespace Idr

/-- The edges of a turn as a relation. -/
def TurnEdge (edges : List (Text × Text)) (a b : Text) : Prop := (a, b) ∈ edges

variable {edges : List (Text × Text)}

theorem mem_successors {a b : Text} : b ∈ successors edges a ↔ TurnEdge edges a b := by
  rw [successors, List.mem_map]
  constructor
  · rintro ⟨⟨source, target⟩, hmem, rfl⟩
    obtain ⟨hedge, hsource⟩ := List.mem_filter.mp hmem
    obtain rfl : source = a := of_decide_eq_true hsource
    exact hedge
  · intro hedge
    exact ⟨(a, b), List.mem_filter.mpr ⟨hedge, decide_eq_true rfl⟩, rfl⟩

/-! ### The calls of the visit

`visit` of the source recurses without a bound.  These are its calls: a call has a result when the
calls it makes have one. -/

section Calls

variable (adjacency : Text → List Text)

mutual

/-- A call of `visit`, and its result. -/
inductive Visits : Text → List Text → List Text → Bool × List Text × List Text → Prop
  | visited {node visiting visited} : node ∈ visited →
      Visits node visiting visited (true, visiting, visited)
  | cycle {node visiting visited} : node ∉ visited → node ∈ visiting →
      Visits node visiting visited (false, visiting, visited)
  | left {node visiting visited visiting' visited'} : node ∉ visited → node ∉ visiting →
      VisitsAll (adjacency node) (node :: visiting) visited (true, visiting', visited') →
      Visits node visiting visited (true, visiting'.erase node, node :: visited')
  | failed {node visiting visited visiting' visited'} : node ∉ visited → node ∉ visiting →
      VisitsAll (adjacency node) (node :: visiting) visited (false, visiting', visited') →
      Visits node visiting visited (false, visiting', visited')

/-- The calls of a loop over nodes, up to the first that fails. -/
inductive VisitsAll : List Text → List Text → List Text → Bool × List Text × List Text → Prop
  | nil {visiting visited} : VisitsAll [] visiting visited (true, visiting, visited)
  | next {child children visiting visited visiting' visited' result} :
      Visits child visiting visited (true, visiting', visited') →
      VisitsAll children visiting' visited' result →
      VisitsAll (child :: children) visiting visited result
  | stop {child children visiting visited visiting' visited'} :
      Visits child visiting visited (false, visiting', visited') →
      VisitsAll (child :: children) visiting visited (false, visiting', visited')

end

end Calls

/-! ### What a visit finds -/

/-- A visit of the targets succeeds, and has searched them, or it fails, and there is a cycle. -/
def Explores (edges : List (Text × Text)) (targets visiting visited : List Text)
    (result : Bool × List Text × List Text) : Prop :=
  (∃ visited', result = (true, visiting, visited') ∧ visited ⊆ visited' ∧ targets ⊆ visited' ∧
      Searched (TurnEdge edges) (· ∈ visited')) ∨
    (∃ visiting' visited', result = (false, visiting', visited')) ∧ ¬ Acyclic (TurnEdge edges)

/-- The loop over nodes, given what each visit finds. -/
theorem visitChildren_explores {f : Text → List Text → List Text → Bool × List Text × List Text}
    {visiting : List Text} (children : List Text)
    (hvisit : ∀ child ∈ children, ∀ visited, Searched (TurnEdge edges) (· ∈ visited) →
      Visits (successors edges) child visiting visited (f child visiting visited) ∧
        Explores edges [child] visiting visited (f child visiting visited)) :
    ∀ visited, Searched (TurnEdge edges) (· ∈ visited) →
      VisitsAll (successors edges) children visiting visited
        (visitChildren f children visiting visited) ∧
        Explores edges children visiting visited (visitChildren f children visiting visited) := by
  induction children with
  | nil =>
    intro visited hsearched
    exact ⟨.nil, Or.inl ⟨visited, rfl, fun _ h => h, fun _ h => absurd h List.not_mem_nil,
      hsearched⟩⟩
  | cons child children ih =>
    intro visited hsearched
    obtain ⟨hcall, hchild⟩ := hvisit child List.mem_cons_self visited hsearched
    rw [visitChildren]
    rcases hchild with ⟨visited', hresult, hkept, htarget, hsearched'⟩ | ⟨⟨_, _, hresult⟩, hcycle⟩
    · rw [hresult] at hcall ⊢
      obtain ⟨hcalls, hrest⟩ := ih (fun other hmem => hvisit other (List.mem_cons_of_mem _ hmem))
        visited' hsearched'
      refine ⟨.next hcall hcalls, ?_⟩
      rcases hrest with ⟨visited'', hresult', hkept', htargets, hsearched''⟩ | ⟨hfail, hcycle⟩
      · refine Or.inl ⟨visited'', hresult', fun a ha => hkept' (hkept ha), ?_, hsearched''⟩
        intro a ha
        rcases List.mem_cons.mp ha with rfl | ha
        · exact hkept' (htarget List.mem_cons_self)
        · exact htargets ha
      · exact Or.inr ⟨hfail, hcycle⟩
    · rw [hresult] at hcall ⊢
      exact ⟨.stop hcall, Or.inr ⟨⟨_, _, rfl⟩, hcycle⟩⟩

/-- **A visit.** The fuel lasts, since the nodes of `visiting` are distinct nodes of the graph. -/
theorem visit_explores {nodes : List Text} (hwithin : ∀ a b, TurnEdge edges a b → b ∈ nodes)
    (fuel : Nat) : ∀ {node : Text} {visiting visited : List Text}, node ∈ nodes → visiting ⊆ nodes →
      visiting.Nodup → nodes.length < fuel + visiting.length →
      (∀ a ∈ visiting, Relation.TransGen (TurnEdge edges) a node) →
      Searched (TurnEdge edges) (· ∈ visited) →
      Visits (successors edges) node visiting visited
        (visit (successors edges) fuel node visiting visited) ∧
        Explores edges [node]
          visiting visited (visit (successors edges) fuel node visiting visited) := by
  induction fuel with
  | zero =>
    intro node visiting visited _ hsub hnodup hfuel
    have hlength := (hnodup.subperm hsub).length_le
    omega
  | succ fuel ih =>
    intro node visiting visited hnode hsub hnodup hfuel hleads hsearched
    rw [visit]
    split
    case isTrue hvisited =>
      refine ⟨.visited hvisited, Or.inl ⟨visited, rfl, fun _ h => h, ?_, hsearched⟩⟩
      exact List.cons_subset.mpr ⟨hvisited, List.nil_subset _⟩
    case isFalse hvisited =>
      split
      case isTrue hcycle =>
        refine ⟨.cycle hvisited hcycle, Or.inr ⟨⟨_, _, rfl⟩, fun hacyclic => ?_⟩⟩
        exact hacyclic node (hleads node hcycle)
      case isFalse hnew =>
        -- the node is on the way to each of its successors, and so is what led to the node
        have hchildren := @visitChildren_explores edges (visit (successors edges) fuel)
          (node :: visiting) (successors edges node) (fun child hchild visited hsearched => by
            have hedge := mem_successors.mp hchild
            refine ih (hwithin _ _ hedge) ?_ (List.nodup_cons.mpr ⟨hnew, hnodup⟩) ?_ ?_ hsearched
            · exact List.cons_subset.mpr ⟨hnode, hsub⟩
            · rw [List.length_cons]
              omega
            · intro a ha
              rcases List.mem_cons.mp ha with rfl | ha
              · exact .single hedge
              · exact (hleads a ha).tail hedge)
        obtain ⟨hcalls, hexplores⟩ := hchildren visited hsearched
        rcases hexplores with ⟨visited', hresult, hkept, htargets, hsearched'⟩ |
          ⟨⟨_, _, hresult⟩, hcycle⟩
        · rw [hresult] at hcalls ⊢
          have hleft := Visits.left hvisited hnew hcalls
          rw [List.erase_cons_head] at hleft
          show Visits _ _ _ _ (true, (node :: visiting).erase node, node :: visited') ∧
            Explores _ _ _ _ (true, (node :: visiting).erase node, node :: visited')
          rw [List.erase_cons_head]
          refine ⟨hleft, Or.inl ⟨node :: visited', rfl, ?_, ?_, ?_⟩⟩
          · exact fun a ha => List.mem_cons_of_mem _ (hkept ha)
          · exact List.cons_subset.mpr ⟨List.mem_cons_self, List.nil_subset _⟩
          · have hinsert := hsearched'.insert fun b hedge => htargets (mem_successors.mpr hedge)
            simpa only [List.mem_cons] using hinsert
        · rw [hresult] at hcalls ⊢
          exact ⟨.failed hvisited hnew hcalls, Or.inr ⟨⟨_, _, rfl⟩, hcycle⟩⟩

/-- The loop over all nodes: its calls end, and it succeeds exactly when the graph is acyclic. -/
theorem visitNodes_iff {nodes : List Text}
    (hwithin : ∀ a b, TurnEdge edges a b → a ∈ nodes ∧ b ∈ nodes) :
    VisitsAll (successors edges) nodes [] []
        (visitChildren (visit (successors edges) (nodes.length + 1)) nodes [] []) ∧
      ((visitChildren (visit (successors edges) (nodes.length + 1)) nodes [] []).1 = true ↔
        Acyclic (TurnEdge edges)) := by
  have hempty : Searched (TurnEdge edges) (· ∈ ([] : List Text)) :=
    ⟨fun _ h => absurd h List.not_mem_nil, fun _ h => absurd h List.not_mem_nil⟩
  obtain ⟨hcalls, hexplores⟩ := @visitChildren_explores edges _ [] nodes
    (fun node hnode visited hsearched => visit_explores (fun a b hedge => (hwithin a b hedge).2)
      (nodes.length + 1) hnode (List.nil_subset _) List.nodup_nil (Nat.lt_succ_self _)
      (fun _ h => absurd h List.not_mem_nil) hsearched) [] hempty
  refine ⟨hcalls, ?_⟩
  rcases hexplores with ⟨visited, hresult, -, hall, hsearched⟩ | ⟨⟨_, _, hresult⟩, hcycle⟩
  · rw [hresult]
    refine ⟨fun _ a hpath => ?_, fun _ => rfl⟩
    obtain ⟨b, hedge, -⟩ := Relation.TransGen.head'_iff.mp hpath
    exact hsearched.acyclic a (hall (hwithin a b hedge).1) hpath
  · rw [hresult]
    exact ⟨fun h => absurd h Bool.false_ne_true, fun h => absurd h hcycle⟩

/-! ### Accepted candidates -/

/-- **The nodes and the edges of a payload are those of a graph.** -/
structure TurnGraph (payload : Value) (nodes : List Text) (edges : List (Text × Text)) : Prop where
  nodes_eq : payload.get "nodes" = some (.array (nodes.map .string))
  edges_eq : payload.get "edges" =
    some (.array (edges.map fun edge => .array [.string edge.1, .string edge.2]))
  nonempty : nodes ≠ []
  distinct : nodes.Nodup
  named : ∀ node ∈ nodes, byteLen node ≠ 0
  within : ∀ edge ∈ edges, edge.1 ≠ edge.2 ∧ edge.1 ∈ nodes ∧ edge.2 ∈ nodes

/-- The mode that a graph asks for. -/
inductive AsksFor (nodes : List Text) (edges : List (Text × Text)) : Text → Prop
  | respondOnly : ("response" : Text) ∈ nodes → ("action" : Text) ∉ nodes →
      AsksFor nodes edges "respond_only"
  | actThenRespond : ("response" : Text) ∈ nodes → ("action" : Text) ∈ nodes →
      edges = ([("action", "response")] : List (Text × Text)) →
      AsksFor nodes edges "act_then_respond"
  | respondThenAct : ("response" : Text) ∈ nodes → ("action" : Text) ∈ nodes →
      edges = ([("response", "action")] : List (Text × Text)) →
      AsksFor nodes edges "respond_then_act"

theorem expectedTurnMode_eq_some {nodes : List Text} {mode : Text} :
    expectedTurnMode nodes edges = some mode ↔ AsksFor nodes edges mode := by
  unfold expectedTurnMode
  constructor
  · intro h
    split at h
    case isTrue hresponse =>
      split at h
      case isTrue haction =>
        split at h
        case isTrue hedges =>
          obtain rfl := Option.some.inj h
          exact .actThenRespond hresponse haction hedges
        case isFalse =>
          split at h
          case isTrue hedges =>
            obtain rfl := Option.some.inj h
            exact .respondThenAct hresponse haction hedges
          case isFalse => cases h
      case isFalse haction =>
        obtain rfl := Option.some.inj h
        exact .respondOnly hresponse haction
    case isFalse => cases h
  · intro h
    cases h with
    | respondOnly hresponse haction => rw [if_pos hresponse, if_neg haction]
    | actThenRespond hresponse haction hedges =>
      rw [if_pos hresponse, if_pos haction, if_pos hedges]
    | respondThenAct hresponse haction hedges =>
      have hne : edges ≠ [(("action" : Text), ("response" : Text))] := by
        rw [hedges]
        decide
      rw [if_pos hresponse, if_pos haction, if_neg hne, if_pos hedges]

theorem turnNode_eq_ok (v : Value) (name : Text) :
    turnNode v = .ok name ↔ v = .string name ∧ byteLen name ≠ 0 := by
  rw [turnNode, okOr_eq_ok, Option.filter_eq_some_iff, decide_eq_true_eq]
  refine and_congr_left fun _ => ?_
  cases v with
  | string s =>
    exact ⟨fun h => congrArg Value.string (Option.some.inj h),
      fun h => congrArg some (Value.string.inj h)⟩
  | null | bool | number | array | object => exact ⟨fun h => (by cases h), fun h => (by cases h)⟩

theorem turnEdge_eq_ok {nodes : List Text} (v : Value) (edge : Text × Text) :
    turnEdge nodes v = .ok edge ↔ v = .array [.string edge.1, .string edge.2] ∧
      (edge.1 ≠ edge.2 ∧ edge.1 ∈ nodes ∧ edge.2 ∈ nodes) := by
  have hstring : ∀ {v : Value} {s : Text}, v.asStr = some s ↔ v = .string s := by
    intro v s
    cases v with
    | string t =>
      exact ⟨fun h => congrArg Value.string (Option.some.inj h),
        fun h => congrArg some (Value.string.inj h)⟩
    | null | bool | number | array | object => exact ⟨fun h => (by cases h), fun h => (by cases h)⟩
  constructor
  · intro h
    unfold turnEdge at h
    split at h
    case h_1 source target harray =>
      simp only [bind_eq_ok, okOr_eq_ok, hstring, rejectIf_eq_ok, exists_const, Except.ok.injEq,
        not_or, not_not] at h
      obtain ⟨source, rfl, target, rfl, hwithin, rfl⟩ := h
      refine ⟨?_, hwithin⟩
      cases v with
      | array values => exact congrArg Value.array (Option.some.inj harray)
      | null | bool | number | string | object => cases harray
    case h_2 => cases h
  · rintro ⟨rfl, hwithin⟩
    simp only [turnEdge, Value.asArray, Value.asStr, okOr, bind_eq_ok, rejectIf_eq_ok,
      Except.ok.injEq, not_or, not_not, exists_const]
    exact ⟨_, rfl, _, rfl, hwithin, rfl⟩

theorem requiredPayloadArray_eq_ok {payload : Value} {field : Text} {values : List Value} :
    requiredPayloadArray payload field = .ok values ↔ payload.get field = some (.array values) := by
  rw [requiredPayloadArray, okOr_eq_ok, Option.bind_eq_some_iff]
  constructor
  · rintro ⟨v, hget, harray⟩
    rw [hget]
    cases v with
    | array found => exact congrArg (some ∘ Value.array) (Option.some.inj harray)
    | null | bool | number | string | object => cases harray
  · intro hget
    exact ⟨_, hget, rfl⟩

/-- **A turn candidate is accepted exactly when it is an acyclic graph with the mode that the graph
asks for.**  On every graph the calls of the visit end, and the visit is exact. -/
theorem validateTurnCandidate_iff (payload : Value) :
    (validateTurnCandidate payload = .ok () ↔ ∃ mode nodes edges,
      payload.get "mode" = some (.string mode) ∧ TurnGraph payload nodes edges ∧
        Acyclic (TurnEdge edges) ∧ AsksFor nodes edges mode) ∧
    ∀ nodes edges, (∀ a b, TurnEdge edges a b → a ∈ nodes ∧ b ∈ nodes) →
      VisitsAll (successors edges) nodes [] []
          (visitChildren (visit (successors edges) (nodes.length + 1)) nodes [] []) ∧
        ((visitChildren (visit (successors edges) (nodes.length + 1)) nodes [] []).1 = true ↔
          Acyclic (TurnEdge edges)) := by
  refine ⟨?_, fun nodes edges hwithin => visitNodes_iff hwithin⟩
  have hmem : ∀ (names : List Text) (name : Text), name ∈ sortedSet compareText names ↔
      name ∈ names :=
    fun names name => mem_sortedSet fun a b h => compareText_eq h
  have hgraph : ∀ {names : List Text} {edges : List (Text × Text)},
      (∀ edge ∈ edges, edge.1 ≠ edge.2 ∧ edge.1 ∈ sortedSet compareText names ∧
        edge.2 ∈ sortedSet compareText names) →
      ((visitChildren (visit (successors edges) ((sortedSet compareText names).length + 1))
        (sortedSet compareText names) [] []).1 = true ↔ Acyclic (TurnEdge edges)) :=
    fun hwithin => (visitNodes_iff fun a b hedge => (hwithin _ hedge).2).2
  have hasks : ∀ {names : List Text} {edges : List (Text × Text)} {mode : Text},
      expectedTurnMode (sortedSet compareText names) edges = some mode ↔
      AsksFor names edges mode := by
    intro names edges mode
    rw [← expectedTurnMode_eq_some, expectedTurnMode, expectedTurnMode]
    simp only [hmem]
  constructor
  · intro h
    simp only [validateTurnCandidate, bind_eq_ok, requiredPayloadArray_eq_ok, rejectIf_eq_ok,
      exists_const, require_eq_ok, not_or, not_not, mapM_eq_ok_map turnNode_eq_ok,
      mapM_eq_ok_map turnEdge_eq_ok] at h
    obtain ⟨mode, hmode, _, hnodes, names, ⟨rfl, hnamed⟩, ⟨hlength, hne⟩, _, hedges, edges,
      ⟨rfl, hwithin⟩, hacyclic, hexpected⟩ := h
    rw [List.length_map, length_sortedSet_compareText] at hlength
    refine ⟨mode, names, edges, requiredPayloadString_eq_ok hmode,
      ⟨hnodes, hedges, ?_, hlength, hnamed, ?_⟩, (hgraph hwithin).mp hacyclic, hasks.mp hexpected⟩
    · rintro rfl
      exact hne rfl
    · simpa only [hmem] using hwithin
  · rintro ⟨mode, names, edges, hmode, hturn, hacyclic, hexpected⟩
    have hwithin : ∀ edge ∈ edges, edge.1 ≠ edge.2 ∧ edge.1 ∈ sortedSet compareText names ∧
        edge.2 ∈ sortedSet compareText names := by
      simpa only [hmem] using hturn.within
    simp only [validateTurnCandidate, bind_eq_ok, requiredPayloadArray_eq_ok, rejectIf_eq_ok,
      exists_const, require_eq_ok, not_or, not_not, mapM_eq_ok_map turnNode_eq_ok,
      mapM_eq_ok_map turnEdge_eq_ok]
    refine ⟨mode, ?_, _, hturn.nodes_eq, names, ⟨rfl, hturn.named⟩, ⟨?_, ?_⟩, _, hturn.edges_eq,
      edges, ⟨rfl, hwithin⟩, (hgraph hwithin).mpr hacyclic, hasks.mpr hexpected⟩
    · rw [requiredPayloadString, hmode]
      cases hexpected <;> rfl
    · rw [List.length_map, length_sortedSet_compareText]
      exact hturn.distinct
    · obtain ⟨name, hname⟩ := List.exists_mem_of_ne_nil _ hturn.nonempty
      exact List.ne_nil_of_mem ((hmem names name).mpr hname)

/-! ### A sample candidate -/

namespace TurnSample

def nodeNames : List Text := ["response", "action"]
def edgePairs : List (Text × Text) := [("response", "action")]

/-- A response, and an action after it. -/
def payload : Value := .object [
  ("mode", .string "respond_then_act"),
  ("nodes", .array (nodeNames.map .string)),
  ("edges", .array (edgePairs.map fun edge => .array [.string edge.1, .string edge.2]))]

end TurnSample

/-- The sample candidate is accepted: its one edge leads from one node to the other. -/
theorem validateTurnCandidate_sample : validateTurnCandidate TurnSample.payload = .ok () := by
  obtain ⟨haccepted, hvisit⟩ := validateTurnCandidate_iff TurnSample.payload
  have hwithin : ∀ edge ∈ TurnSample.edgePairs,
      edge.1 ≠ edge.2 ∧ edge.1 ∈ TurnSample.nodeNames ∧ edge.2 ∈ TurnSample.nodeNames := by decide
  have hacyclic : Acyclic (TurnEdge TurnSample.edgePairs) := by
    refine (hvisit TurnSample.nodeNames TurnSample.edgePairs fun a b hedge =>
      (hwithin _ hedge).2).2.mp ?_
    decide
  refine haccepted.mpr ⟨"respond_then_act", TurnSample.nodeNames, TurnSample.edgePairs, rfl,
    ⟨rfl, rfl, by decide, by decide, by decide, hwithin⟩, hacyclic, ?_⟩
  exact .respondThenAct (by decide) (by decide) rfl

end Idr
