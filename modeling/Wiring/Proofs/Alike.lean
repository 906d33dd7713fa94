import Mathlib.Data.Set.Basic
import Wiring.Blueprint
import Wiring.Proofs.BeanSearch
import Wiring.Proofs.Results
/-!
# Alike — contexts with the same beans

Of a context a search for beans sees which names come with which sets of types, and which type can stand for which.
Contexts in which these are the same are alike (`Context.Alike`), and along chains of such contexts every search comes to
the same (`BeanSearch.matching_congr`).  The order of beans and of declared supertypes, and how often each is given,
makes no difference (`Blueprint.build_alike`).
-/
namespace Wiring

namespace Context

/-- The beans of a context, each a name with a set of types. -/
def beans (c : Context) : Set (String × Set String) := {b | ∃ r ∈ c.registrations, b = (r.name, {t | t ∈ r.types})}

/-- The contexts have the same beans, and in both the same types can stand for one another. -/
structure Alike (c d : Context) : Prop where
  beans : c.beans = d.beans
  assignable : ∀ source target, c.hierarchy.isAssignable source target = d.hierarchy.isAssignable source target

/-- For every registration of the first context the second has one of the same name that provides all that it does. -/
def CoveredBy (c d : Context) : Prop :=
  ∀ r ∈ c.registrations, ∃ r' ∈ d.registrations, r'.name = r.name ∧ ∀ type, c.Provides r type → d.Provides r' type

namespace Alike

variable {c d : Context}

theorem symm (h : c.Alike d) : d.Alike c := ⟨h.beans.symm, fun source target => (h.assignable source target).symm⟩

theorem reaches_iff (h : c.Alike d) {source target : String} :
    Hierarchy.Reaches c.hierarchy.links source target ↔ Hierarchy.Reaches d.hierarchy.links source target := by
  rw [← Hierarchy.isAssignable_iff, ← Hierarchy.isAssignable_iff, h.assignable]

theorem coveredBy (h : c.Alike d) : c.CoveredBy d := by
  intro r hr
  have hbean : (r.name, {t | t ∈ r.types}) ∈ d.beans := h.beans ▸ ⟨r, hr, rfl⟩
  -- the bean of the other context may come with its types in another order
  obtain ⟨r', hr', heq⟩ := hbean
  obtain ⟨hname, htypes⟩ := Prod.mk.inj heq
  refine ⟨r', hr', hname.symm, fun type hp => ?_⟩
  obtain ⟨t, ht, hreaches⟩ := hp
  have ht' : t ∈ {t | t ∈ r'.types} := htypes ▸ ht
  exact ⟨t, ht', h.reaches_iff.1 hreaches⟩

/-- Neither the order of registrations and links nor their repetition counts. -/
theorem of_mem_iff (hregistrations : ∀ r, r ∈ c.registrations ↔ r ∈ d.registrations)
    (hlinks : ∀ l, l ∈ c.hierarchy.links ↔ l ∈ d.hierarchy.links) : c.Alike d where
  beans := by
    unfold Context.beans
    simp only [hregistrations]
  assignable source target := by
    have hlinked : Hierarchy.Linked c.hierarchy.links = Hierarchy.Linked d.hierarchy.links := by
      funext a b
      exact propext (hlinks (a, b))
    rw [Bool.eq_iff_iff, Hierarchy.isAssignable_iff, Hierarchy.isAssignable_iff]
    unfold Hierarchy.Reaches
    rw [hlinked]

/-- Contexts stay alike when both get the same registrations. -/
theorem append (h : c.Alike d) (more : List Registration) :
    Alike { c with registrations := c.registrations ++ more } { d with registrations := d.registrations ++ more } where
  beans := by
    have hsplit : ∀ c : Context, Context.beans { c with registrations := c.registrations ++ more } =
        c.beans ∪ {b | ∃ r ∈ more, b = (r.name, {t | t ∈ r.types})} := fun c => by
      ext b
      simp only [Context.beans, List.mem_append, Set.mem_ofPred_eq, Set.mem_union, or_and_right, exists_or]
    rw [hsplit, hsplit, h.beans]
  assignable := h.assignable

end Alike
end Context

namespace Facts

variable {f g : Facts}

theorem forall₂_reach {R : Context → Context → Prop} (h : List.Forall₂ R f.contexts g.contexts) (ancestors : Bool) :
    List.Forall₂ R (f.reach ancestors) (g.reach ancestors) := by
  obtain ⟨hown, -⟩ := List.forall₂_cons.1 h
  cases ancestors with
  | true => exact h
  | false => exact .cons hown .nil

/-- Facts whose chains of contexts correspond begin to look at corresponding places, or both have none. -/
theorem searched?_rel {R : Context → Context → Prop} (h : List.Forall₂ R f.contexts g.contexts) (scope : SearchScope) :
    Option.Rel (fun f' g' => List.Forall₂ R f'.contexts g'.contexts) (f.searched? scope) (g.searched? scope) := by
  obtain ⟨own, ancestors⟩ := f
  obtain ⟨own', ancestors'⟩ := g
  obtain ⟨-, habove⟩ := List.forall₂_cons.1 h
  cases scope with
  | current => exact .some h
  | all => exact .some h
  | parents =>
    -- one context further up on both sides, where either both chains end or neither does
    cases habove with
    | nil => exact .none
    | cons hc hcs => exact .some (.cons hc hcs)

end Facts

namespace BeanSearch

variable {f g : Facts}

theorem found_subset (h : List.Forall₂ Context.CoveredBy f.contexts g.contexts) {types names : List String}
    {ancestors : Bool} {b : String} (hb : b ∈ found f types names ancestors) : b ∈ found g types names ancestors := by
  rw [mem_found] at hb ⊢
  obtain ⟨context, hcontext, r, hr, hname, hpick⟩ := hb
  obtain ⟨context', hcontext', hcovered⟩ := exists_of_forall₂_left (Facts.forall₂_reach h ancestors) context hcontext
  obtain ⟨r', hr', hname', hprovides⟩ := hcovered r hr
  refine ⟨context', hcontext', r', hr', hname'.trans hname, ?_⟩
  rw [hname']
  exact hpick.imp_right fun ⟨type, htype, hp⟩ => ⟨type, htype, hprovides type hp⟩

theorem found_congr (h : List.Forall₂ Context.Alike f.contexts g.contexts) (types names : List String)
    (ancestors : Bool) : found f types names ancestors = found g types names ancestors :=
  (found_ascending _ _ _ _).eq_of_mem_iff (found_ascending _ _ _ _) fun _ =>
    ⟨found_subset (h.imp fun _ _ halike => halike.coveredBy),
      found_subset (h.flip.imp fun _ _ halike => halike.symm.coveredBy)⟩

theorem matching_congr (h : List.Forall₂ Context.Alike f.contexts g.contexts) (search : BeanSearch)
    (kind : ConditionKind) (c : Component) : search.matching kind f c = search.matching kind g c := by
  unfold matching
  cases search.effectiveTypes? c with
  | none => rfl
  | some types =>
    have hrel := Facts.searched?_rel h (search.effectiveScope c)
    dsimp only
    generalize f.searched? (search.effectiveScope c) = x at hrel ⊢
    generalize g.searched? (search.effectiveScope c) = y at hrel ⊢
    cases hrel with
    | none => rfl
    | some halike => exact congrArg Except.ok (found_congr halike _ _ _)

end BeanSearch

namespace Blueprint

/-- One of the declarations names the second type among the supertypes of the first. -/
def Declares (b : Blueprint) (type supertype : String) : Prop :=
  ∃ supertypes, (type, supertypes) ∈ b.supertypes ∧ supertype ∈ supertypes

theorem links_foldl_declare : ∀ (ds : List (String × List String)) (h : Hierarchy),
    (ds.foldl (fun h d => h.declare d.1 d.2) h).links = h.links ++ ds.flatMap fun d => d.2.map fun t => (d.1, t)
  | [], h => (List.append_nil _).symm
  | d :: ds, h => by
    rw [List.foldl_cons, links_foldl_declare ds, List.flatMap_cons, ← List.append_assoc]
    rfl

theorem mem_links_build {b : Blueprint} {type supertype : String} :
    (type, supertype) ∈ b.build.hierarchy.links ↔ b.Declares type supertype := by
  unfold build Declares
  rw [links_foldl_declare, List.nil_append, List.mem_flatMap]
  constructor
  · rintro ⟨d, hd, hlink⟩
    obtain ⟨t, ht, heq⟩ := List.mem_map.1 hlink
    obtain ⟨rfl, rfl⟩ := Prod.mk.inj heq
    exact ⟨d.2, hd, ht⟩
  · rintro ⟨supertypes, hd, ht⟩
    exact ⟨(type, supertypes), hd, List.mem_map.2 ⟨supertype, ht, rfl⟩⟩

/-- Contexts built from the same beans and links are alike, in whatever order and however often these are given. -/
theorem build_alike {b b' : Blueprint} (hbeans : ∀ bean, bean ∈ b.beans ↔ bean ∈ b'.beans)
    (hdeclares : ∀ type supertype, b.Declares type supertype ↔ b'.Declares type supertype) :
    b.build.toContext.Alike b'.build.toContext := by
  refine Context.Alike.of_mem_iff (fun r => ?_) fun l => ?_
  · have hregistered : ∀ b : Blueprint,
        r ∈ b.build.registrations ↔ ∃ bean ∈ b.beans, (⟨bean.1, bean.2, .initial⟩ : Registration) = r :=
      fun b => List.mem_map
    rw [hregistered, hregistered]
    exact exists_congr fun bean => and_congr_left fun _ => hbeans bean
  · rw [mem_links_build, mem_links_build]
    exact hdeclares l.1 l.2

end Blueprint

end Wiring
