import Wiring.Hierarchy.Memo
import Wiring.Proofs.Hierarchy.Reachability
/-!
# Pool — hierarchies that are declared, asked and copied in any order

A copy takes the remembered answers with it, and only a declaration forgets them.  Every remembered answer is still
the one that a search would give (`Coherent`), so an answer is never out of date, and no hierarchy's answers depend on
what is done to another.
-/
namespace Wiring
namespace Hierarchy

namespace Memo

/-- **The invariant of a memo**: what it remembers is what a search finds now. -/
def Coherent (m : Memo) : Prop :=
  ∀ source target answer, m.answers.lookup (source, target) = some answer → answer = m.hierarchy.isBelow source target

theorem coherent_empty : Coherent {} := fun _ _ _ ha => nomatch ha

theorem coherent_declare (m : Memo) (type : String) (supertypes : List String) :
    (m.declare type supertypes).Coherent := fun _ _ _ ha => nomatch ha

theorem ask_hierarchy (m : Memo) (source target : String) : (m.ask source target).2.hierarchy = m.hierarchy := by
  unfold ask
  split
  · rfl
  · split <;> rfl

theorem ask_answer {m : Memo} (hc : m.Coherent) (source target : String) :
    (m.ask source target).1 = m.hierarchy.isAssignable source target := by
  unfold ask isAssignable
  split
  · rename_i hst
    rw [hst, Bool.true_or]
  · rename_i hst
    rw [Bool.not_eq_true] at hst
    rw [hst, Bool.false_or]
    split
    · rename_i answer ha
      exact hc source target answer ha
    · rfl

theorem coherent_ask {m : Memo} (hc : m.Coherent) (source target : String) : (m.ask source target).2.Coherent := by
  unfold ask
  split
  · exact hc
  · split
    · exact hc
    · intro a b answer ha
      rw [List.lookup_cons] at ha
      split at ha
      · rename_i hab
        obtain ⟨rfl, rfl⟩ := Prod.mk.inj (beq_iff_eq.1 hab)
        exact (Option.some.inj ha).symm
      · exact hc a b answer ha

end Memo

/-- What can be done to hierarchies that are told apart by their number: make an empty one, declare supertypes on
one, ask one, or copy one. -/
inductive Action where
  | create
  | declare (i : Nat) (type : String) (supertypes : List String)
  | ask (i : Nat) (source target : String)
  | fork (i : Nat)
  deriving DecidableEq

def Action.subject? : Action → Option Nat
  | .create => none
  | .declare i _ _ | .ask i _ _ | .fork i => some i

/-- What the action makes of the hierarchy with a number: only a declaration on it changes it. -/
def Action.effect (j : Nat) (h : Hierarchy) : Action → Hierarchy
  | .declare i type supertypes => if i = j then h.declare type supertypes else h
  | _ => h

abbrev Pool := List Memo

namespace Pool

/-- The answer, if the action asks for one, and the pool afterwards.  New hierarchies come at the end. -/
def perform (p : Pool) : Action → Option Bool × Pool
  | .create => (none, p ++ [{}])
  | .declare i type supertypes => (none, p.modify i (·.declare type supertypes))
  | .ask i source target =>
    match p[i]? with
    | none => (none, p)
    | some m => (some (m.ask source target).1, p.set i (m.ask source target).2)
  | .fork i => (none, p ++ p[i]?.toList)

def replies (p : Pool) : List Action → List (Option Bool)
  | [] => []
  | a :: as => (p.perform a).1 :: replies (p.perform a).2 as

def after (p : Pool) (as : List Action) : Pool := as.foldl (fun p a => (p.perform a).2) p

end Pool

/-- The links that an action leaves declared on each hierarchy: a copy begins with those of its original. -/
def declared (ls : List (List (String × String))) : Action → List (List (String × String))
  | .create => ls ++ [[]]
  | .declare i type supertypes => ls.modify i (· ++ supertypes.map fun s => (type, s))
  | .ask _ _ _ => ls
  | .fork i => ls ++ ls[i]?.toList

/-- The links declared on each hierarchy by actions from the beginning. -/
def linksAfter (as : List Action) : List (List (String × String)) := as.foldl declared []

namespace Pool

/-- The pool has such links, and all its memos are coherent. -/
structure Current (p : Pool) (ls : List (List (String × String))) : Prop where
  links : p.map (·.hierarchy.links) = ls
  coherent : ∀ m ∈ p, m.Coherent

theorem coherent_perform {p : Pool} (hp : ∀ m ∈ p, m.Coherent) (a : Action) :
    ∀ m ∈ (p.perform a).2, m.Coherent := by
  cases a with
  | create =>
    intro m hm
    rcases List.mem_append.1 hm with hm | hm
    · exact hp m hm
    · rw [List.mem_singleton.1 hm]
      exact Memo.coherent_empty
  | declare i type supertypes =>
    intro m hm
    obtain ⟨j, hj⟩ := List.getElem?_of_mem hm
    simp only [perform, List.getElem?_modify] at hj
    obtain ⟨m', hm', rfl⟩ := Option.map_eq_some_iff.1 hj
    split
    · exact Memo.coherent_declare m' type supertypes
    · exact hp m' (List.mem_of_getElem? hm')
  | ask i source target =>
    simp only [perform]
    split
    · exact hp
    · rename_i m hm
      intro m' hm'
      rcases List.mem_or_eq_of_mem_set hm' with hm' | rfl
      · exact hp m' hm'
      · exact Memo.coherent_ask (hp m (List.mem_of_getElem? hm)) source target
  | fork i =>
    intro m hm
    rcases List.mem_append.1 hm with hm | hm
    · exact hp m hm
    · exact hp m (List.mem_of_getElem? (Option.mem_toList.1 hm))

theorem hierarchy_perform {p : Pool} {j : Nat} {h : Hierarchy} (hj : p[j]?.map (·.hierarchy) = some h) (a : Action) :
    (p.perform a).2[j]?.map (·.hierarchy) = some (a.effect j h) := by
  obtain ⟨m, hm, rfl⟩ := Option.map_eq_some_iff.1 hj
  have hlt : j < p.length := (List.getElem?_eq_some_iff.1 hm).1
  cases a with
  | create => simp only [perform, List.getElem?_append_left hlt, hm, Option.map_some, Action.effect]
  | declare i type supertypes =>
    simp only [perform, List.getElem?_modify, hm, Option.map_eq_map, Option.map_some, Action.effect]
    by_cases hij : i = j
    · simp only [if_pos hij, Memo.declare]
    · simp only [if_neg hij]
  | ask i source target =>
    simp only [perform, Action.effect]
    split
    · exact hj
    · rename_i m' hm'
      by_cases hij : i = j
      · subst hij
        rw [hm'] at hm
        rw [List.getElem?_set_self hlt, Option.map_some, Memo.ask_hierarchy, Option.some.inj hm]
      · rw [List.getElem?_set_ne hij, hj]
  | fork i => simp only [perform, List.getElem?_append_left hlt, hm, Option.map_some, Action.effect]

theorem current_perform {p : Pool} {ls : List (List (String × String))} (hp : Current p ls) (a : Action) :
    Current (p.perform a).2 (declared ls a) := by
  obtain ⟨rfl, hc⟩ := hp
  refine ⟨?_, coherent_perform hc a⟩
  cases a with
  | create => simp [perform, declared]
  | declare i type supertypes =>
    refine List.ext_getElem? fun j => ?_
    simp only [perform, declared, List.getElem?_map, List.getElem?_modify, Option.map_eq_map, Option.map_map]
    congr 1
    funext m
    by_cases hij : i = j
    · simp only [Function.comp_apply, if_pos hij, Memo.declare, Hierarchy.declare]
    · simp only [Function.comp_apply, if_neg hij]
  | ask i source target =>
    simp only [perform, declared]
    split
    · rfl
    · rename_i m hm
      refine List.ext_getElem? fun j => ?_
      by_cases hij : i = j
      · subst hij
        rw [List.getElem?_map, List.getElem?_map, List.getElem?_set_self (List.getElem?_eq_some_iff.1 hm).1, hm,
          Option.map_some, Option.map_some, Memo.ask_hierarchy]
      · rw [List.getElem?_map, List.getElem?_map, List.getElem?_set_ne hij]
  | fork i => cases h : p[i]? <;> simp [perform, declared, h]

theorem current_foldl {ls : List (List (String × String))} : ∀ {p : Pool} (as : List Action), Current p ls →
    Current (p.after as) (as.foldl declared ls)
  | _, [], hp => hp
  | _, a :: as, hp => current_foldl as (current_perform hp a)

theorem current_after (as : List Action) : Current (after [] as) (linksAfter as) :=
  current_foldl as ⟨rfl, fun _ hm => nomatch hm⟩

theorem getElem?_replies : ∀ (p : Pool) (as : List Action) (k : Nat),
    (p.replies as)[k]? = as[k]?.map fun a => ((p.after (as.take k)).perform a).1
  | _, [], _ => rfl
  | _, _ :: _, 0 => rfl
  | p, a :: as, k + 1 => getElem?_replies (p.perform a).2 as k

theorem answer_perform {p : Pool} (hp : ∀ m ∈ p, m.Coherent) {i : Nat} {h : Hierarchy}
    (hi : p[i]?.map (·.hierarchy) = some h) (source target : String) :
    (p.perform (.ask i source target)).1 = some (h.isAssignable source target) := by
  obtain ⟨m, hm, rfl⟩ := Option.map_eq_some_iff.1 hi
  simp only [perform, hm, Memo.ask_answer (hp m (List.mem_of_getElem? hm))]

theorem perform_ask {p : Pool} {ls : List (List (String × String))} (hp : Current p ls) {i : Nat}
    {links : List (String × String)} (hi : ls[i]? = some links) (source target : String) :
    ∃ answer, (p.perform (.ask i source target)).1 = some answer ∧ (answer = true ↔ Reaches links source target) := by
  rw [← hp.links, List.getElem?_map] at hi
  obtain ⟨m, hm, rfl⟩ := Option.map_eq_some_iff.1 hi
  exact ⟨_, answer_perform hp.coherent (by rw [hm, Option.map_some]) source target, isAssignable_iff⟩

/-- Actions on one hierarchy alone are answered alike by pools that have the same hierarchy at its number. -/
theorem replies_congr {j : Nat} : ∀ (as : List Action) {h : Hierarchy} {p q : Pool}, (∀ m ∈ p, m.Coherent) →
    (∀ m ∈ q, m.Coherent) → p[j]?.map (·.hierarchy) = some h → q[j]?.map (·.hierarchy) = some h →
    (∀ a ∈ as, a.subject? = some j) → p.replies as = q.replies as
  | [], _, _, _, _, _, _, _, _ => rfl
  | a :: as, h, p, q, hp, hq, hpj, hqj, has => by
    have hnext := replies_congr as (coherent_perform hp a) (coherent_perform hq a) (hierarchy_perform hpj a)
      (hierarchy_perform hqj a) fun b hb => has b (List.mem_cons_of_mem _ hb)
    have hfirst : (p.perform a).1 = (q.perform a).1 := by
      have hsubject := has a List.mem_cons_self
      cases a with
      | create => rfl
      | declare i type supertypes => rfl
      | ask i source target =>
        obtain rfl : i = j := Option.some.inj hsubject
        rw [answer_perform hp hpj, answer_perform hq hqj]
      | fork i => rfl
    rw [replies, replies, hfirst, hnext]

/-- **Assignability is always current**, whatever is done to however many hierarchies.  Every answer says whether a
path leads from the source to the target along the links declared on the hierarchy so far; the search behind it ends;
and an action that declares nothing on a hierarchy changes no later answer of it. -/
theorem assignability_current (as : List Action) :
    (∀ (k i : Nat) (source target : String) (links : List (String × String)), as[k]? = some (.ask i source target) →
      (linksAfter (as.take k))[i]? = some links →
      ∃ answer, (replies [] as)[k]? = some (some answer) ∧ (answer = true ↔ Reaches links source target)) ∧
    (∀ (h : Hierarchy) (target : String) (s : Search),
      ∃ last, Relation.ReflTransGen (fun s next => h.turn target s = .inr next) s last ∧
        h.turn target last = .inl (h.search target s)) ∧
    ∀ (other : Action) (post : List Action) (j : Nat), j < (linksAfter as).length →
      (∀ type supertypes, other ≠ .declare j type supertypes) → (∀ a ∈ post, a.subject? = some j) →
      (after [] (as ++ [other])).replies post = (after [] as).replies post := by
  refine ⟨fun k i source target links hk hi => ?_, search_terminates, fun other post j hj hother hpost => ?_⟩
  · obtain ⟨answer, hanswer, hreach⟩ := perform_ask (current_after (as.take k)) hi source target
    exact ⟨answer, by rw [getElem?_replies, hk, Option.map_some, hanswer], hreach⟩
  · have hp := (current_after as).coherent
    rw [← (current_after as).links, List.length_map] at hj
    have hat : (after [] as)[j]?.map (·.hierarchy) = some (after [] as)[j].hierarchy := by
      rw [List.getElem?_eq_getElem hj, Option.map_some]
    have hkept : other.effect j (after [] as)[j].hierarchy = (after [] as)[j].hierarchy := by
      cases other with
      | declare i type supertypes =>
        have hij : i ≠ j := fun hij => hother type supertypes (hij ▸ rfl)
        exact if_neg hij
      | create | ask | fork => rfl
    have hnext := hierarchy_perform hat other
    rw [hkept] at hnext
    rw [after, List.foldl_append]
    exact replies_congr post (coherent_perform hp other) hp hnext hat hpost

/-- A copy taken while an answer is remembered goes its own way, and the original keeps its answers. -/
theorem assignability_after_fork :
    let as := [.create, .declare 0 "a" ["b"], .ask 0 "a" "c", .fork 0, .declare 1 "b" ["c", "a"], .ask 1 "a" "c"]
    (∃ answer, (replies [] as)[5]? = some (some answer) ∧
      (answer = true ↔ Reaches [("a", "b"), ("b", "c"), ("b", "a")] "a" "c")) ∧
    replies [] as = [none, none, some false, none, none, some true] ∧
    (after [] (as ++ [.declare 1 "c" ["d"]])).replies [.ask 0 "a" "c"] = (after [] as).replies [.ask 0 "a" "c"] :=
  ⟨(assignability_current _).1 5 1 "a" "c" _ rfl rfl, by decide +kernel,
    (assignability_current _).2.2 (.declare 1 "c" ["d"]) [.ask 0 "a" "c"] 0 (by decide) (fun _ _ h => nomatch h)
      fun a ha => List.mem_singleton.1 ha ▸ rfl⟩

end Pool
end Hierarchy
end Wiring
