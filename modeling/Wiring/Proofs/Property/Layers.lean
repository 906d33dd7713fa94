import Mathlib.Logic.Relation
import Wiring.Blueprint
import Wiring.Proofs.Ranking
import Wiring.Property.Environments
/-!
# Layers — what environments answer after any steps

A run of steps leaves of each environment what it was laid over, the sources in order of arrival and the profiles set
last: its history.  `Records` says that the layers kept by the program are those of the histories, one step keeps it
(`Records.perform`), and what an environment answers is read off the histories on the way down from it
(`answers_after`).
-/
namespace Wiring
namespace Property

open Relation (ReflTransGen)

/-- A step of a program that has several environments. -/
inductive Action where
  | create
  | layer (i : Nat)
  | add (i : Nat) (s : Source)
  | setProfiles (i : Nat) (profiles : List String)

/-- A new environment changes none of those that exist. -/
def Action.changed? : Action → Option Nat
  | .create => none
  | .layer _ => none
  | .add i _ => some i
  | .setProfiles i _ => some i

/-- One step; an environment is laid over one that exists. -/
def Environments.perform (es : Environments) : Action → Environments
  | .create => es.create
  | .layer i => if i < es.members.length then es.createOver i else es
  | .add i s => es.add i s
  | .setProfiles i profiles => es.setProfiles i profiles

/-- From no environment on. -/
def Environments.after (vars : Variables) (done : List Action) : Environments :=
  done.foldl Environments.perform { vars }

/-- What was done with one environment. -/
structure History where
  base : Option Nat := none
  added : List Source := []
  profiles : List String := []

namespace History

def record (hs : List History) : Action → List History
  | .create => hs ++ [{}]
  | .layer i => if i < hs.length then hs ++ [{ base := some i }] else hs
  | .add i s => hs.modify i fun h => { h with added := h.added ++ [s] }
  | .setProfiles i profiles => hs.modify i fun h => { h with profiles }

/-- By number of the environment. -/
def ofActions (done : List Action) : List History := done.foldl record []

/-- Of the sources that define the key this value's has the greatest priority and, among equals, was added first. -/
def Gives (vars : Variables) (key : String) (h : History) (v : Value) : Prop :=
  ∃ pre s post, h.added = pre ++ s :: post ∧ s.get? vars key = some v ∧
    (∀ t ∈ pre, t.get? vars key ≠ none → t.priority < s.priority) ∧
      ∀ t ∈ post, t.get? vars key ≠ none → t.priority ≤ s.priority

/-- One environment was laid over the other, directly or through others, or is the other. -/
def StandsOn (hs : List History) : Nat → Nat → Prop := ReflTransGen fun i j => ∃ h, hs[i]? = some h ∧ h.base = some j

/-- What is found first on the way down from an environment. -/
inductive Nearest {α : Type} (hs : List History) (P : History → α → Prop) : Nat → α → Prop
  | here {i h a} (hi : hs[i]? = some h) (ha : P h a) : Nearest hs P i a
  | down {i j h a} (hi : hs[i]? = some h) (hnone : ∀ b, ¬P h b) (hj : h.base = some j) (ha : Nearest hs P j a) :
      Nearest hs P i a

end History

/-- What an environment answers, told by the histories: the value of a key is the one that the nearest layer gives, and
there is none if no source on the way down defines the key; the profiles are the nearest that are not empty; a layer's
sources are in one stable order. -/
structure Environment.Answers (vars : Variables) (hs : List History) (i : Nat) (e : Environment) : Prop where
  value : ∀ key v, e.get? key = some v ↔ History.Nearest hs (History.Gives vars key) i v
  unset : ∀ key, e.get? key = none ↔
    ∀ j h, History.StandsOn hs i j → hs[j]? = some h → ∀ s ∈ h.added, s.get? vars key = none
  profiles : ∀ ps, e.activeProfiles = ps ↔
    History.Nearest hs (fun h ps => h.profiles = ps ∧ ps ≠ []) i ps ∨
      ps = [] ∧ ∀ j h, History.StandsOn hs i j → hs[j]? = some h → h.profiles = []
  order : ∀ h, hs[i]? = some h → e.top.sources = h.added.mergeSort fun a b => decide (b.priority ≤ a.priority)

theorem Environment.eq_of_layers {e e' : Environment} (hvars : e.vars = e'.vars) (hlayers : e.layers = e'.layers) :
    e = e' := by
  obtain ⟨vars, top, base⟩ := e
  obtain ⟨vars', top', base'⟩ := e'
  obtain rfl : vars = vars' := hvars
  obtain ⟨rfl, rfl⟩ := List.cons.inj hlayers
  rfl

namespace Source

/-- Sources added one after the other, in the order in which they are asked. -/
def inOrder (sources : List Source) : List Source :=
  Ranking.sorted (fun a b => decide (b.priority < a.priority)) sources

/-- They are asked by falling priority. -/
theorem before_iff (a b : Source) : decide (b.priority < a.priority) = true ↔ -a.priority < -b.priority := by
  rw [decide_eq_true_eq]
  omega

theorem mem_inOrder {sources : List Source} {s : Source} : s ∈ inOrder sources ↔ s ∈ sources :=
  Ranking.mem_sorted before_iff

/-- **Adding sources one after the other is one stable sort** by priority. -/
theorem inOrder_eq_mergeSort (sources : List Source) :
    inOrder sources = sources.mergeSort fun a b => decide (b.priority ≤ a.priority) := by
  have hle : (fun a b : Source => decide (b.priority ≤ a.priority)) = fun a b => decide (-a.priority ≤ -b.priority) := by
    funext a b
    exact decide_eq_decide.2 (by omega)
  rw [hle]
  exact Ranking.sorted_eq_mergeSort before_iff sources

theorem add_inOrder (sources : List Source) (profiles : List String) (s : Source) :
    Layer.add ⟨inOrder sources, profiles⟩ s = ⟨inOrder (sources ++ [s]), profiles⟩ := by
  simp only [inOrder, Layer.add, Ranking.sorted, List.foldl_append, List.foldl_cons, List.foldl_nil]

/-- A source that does not define a key is passed over wherever it comes in. -/
theorem get?_add_of_none {vars : Variables} {key : String} {s : Source} (hs : s.get? vars key = none) (l : Layer) :
    (l.add s).get? vars key = l.get? vars key := by
  rw [Layer.get?, Layer.add, Ranking.findSome?_insert_of_none (by exact hs), ← Layer.get?]

end Source

/-- A source in a layer of its own on top goes before all others, whatever its priority. -/
theorem Environment.get?_layered_add (e : Environment) (s : Source) (key : String) :
    (e.layered.add s).get? key = (s.get? e.vars key).or (e.get? key) := by
  have hvars : (e.layered.add s).vars = e.vars := rfl
  have hlayers : (e.layered.add s).layers = ⟨[s], []⟩ :: e.layers := rfl
  have htop : Layer.get? e.vars ⟨[s], []⟩ key = s.get? e.vars key := List.findSome?_singleton
  rw [get?, hvars, hlayers, List.findSome?_cons, htop]
  cases s.get? e.vars key with
  | some v => rfl
  | none => rfl

/-- The profiles of a layer that has any. -/
def Layer.profiles? (l : Layer) : Option (List String) := Option.guard (fun ps => !ps.isEmpty) l.profiles

theorem Environment.activeProfiles_eq (e : Environment) :
    e.activeProfiles = (e.layers.findSome? Layer.profiles?).getD [] := by
  rw [activeProfiles, ← List.findSome?_guard, List.findSome?_map]
  rfl

namespace History

section Layer

/-- The layer that is kept of it. -/
def layer (h : History) : Layer := ⟨Source.inOrder h.added, h.profiles⟩

theorem gives_iff_leads {vars : Variables} {key : String} {h : History} {v : Value} :
    Gives vars key h v ↔ Ranking.Leads (fun s : Source => -s.priority) (·.get? vars key) h.added v := by
  simp only [Gives, Ranking.Leads, Int.neg_lt_neg_iff, Int.neg_le_neg_iff]

theorem get?_layer {vars : Variables} {key : String} {h : History} {v : Value} :
    h.layer.get? vars key = some v ↔ Gives vars key h v := by
  rw [gives_iff_leads]
  exact Ranking.findSome?_sorted_iff Source.before_iff

theorem get?_layer_eq_none {vars : Variables} {key : String} {h : History} :
    h.layer.get? vars key = none ↔ ∀ s ∈ h.added, s.get? vars key = none :=
  Ranking.findSome?_sorted_eq_none_iff Source.before_iff

theorem profiles?_layer {h : History} {ps : List String} : h.layer.profiles? = some ps ↔ h.profiles = ps ∧ ps ≠ [] := by
  rw [Layer.profiles?, Option.guard_eq_some_iff, Bool.not_eq_true', List.isEmpty_eq_false_iff]
  exact and_congr_right fun hps => by rw [← hps]

theorem profiles?_layer_eq_none {h : History} : h.layer.profiles? = none ↔ h.profiles = [] := by
  rw [Layer.profiles?, Option.guard_eq_none_iff, Bool.not_eq_false', List.isEmpty_iff]
  rfl

end Layer

section Way

variable {α : Type} {hs : List History} {i : Nat} {h : History}

theorem nearest_iff {P : History → α → Prop} {a : α} (hi : hs[i]? = some h) :
    Nearest hs P i a ↔ P h a ∨ (∀ b, ¬P h b) ∧ ∃ j, h.base = some j ∧ Nearest hs P j a := by
  refine ⟨fun hn => ?_, fun hn => ?_⟩
  · cases hn with
    | here hi' ha =>
      obtain rfl := Option.some.inj (hi'.symm.trans hi)
      exact .inl ha
    | down hi' hnone hbase ha =>
      obtain rfl := Option.some.inj (hi'.symm.trans hi)
      exact .inr ⟨hnone, _, hbase, ha⟩
  · rcases hn with ha | ⟨hnone, j, hbase, ha⟩
    · exact .here hi ha
    · exact .down hi hnone hbase ha

theorem forall_standsOn_iff {Q : History → Prop} (hi : hs[i]? = some h) :
    (∀ j g, StandsOn hs i j → hs[j]? = some g → Q g) ↔
      Q h ∧ ∀ k, h.base = some k → ∀ j g, StandsOn hs k j → hs[j]? = some g → Q g := by
  refine ⟨fun hall => ⟨hall i h .refl hi, fun k hk j g hj => hall j g (.head ⟨h, hi, hk⟩ hj)⟩, ?_⟩
  rintro ⟨hh, hall⟩ j g hj hg
  obtain rfl | ⟨k, ⟨h', hi', hk⟩, hj⟩ := hj.cases_head
  · exact Option.some.inj (hi.symm.trans hg) ▸ hh
  · obtain rfl := Option.some.inj (hi'.symm.trans hi)
    exact hall k hk j g hj hg

end Way

end History

namespace Environments

open History (StandsOn Nearest record)

/-- What is kept of the environment: its history's layer, and below it what the environment stands on that it was laid
over. -/
structure Keeps (es : Environments) (i : Nat) (s : Stack) (h : History) : Prop where
  layer : s.layer = h.layer
  root : h.base = none → s.below = []
  upon : ∀ j, h.base = some j → j < i ∧ ∃ t, es.members[j]? = some t ∧ s.below = j :: t.below

/-- The environments are those of the histories. -/
structure Records (es : Environments) (hs : List History) : Prop where
  length : es.members.length = hs.length
  keeps : ∀ i s h, es.members[i]? = some s → hs[i]? = some h → es.Keeps i s h

theorem getElem?_changeLayer (es : Environments) (i j : Nat) (f : Layer → Layer) :
    (es.changeLayer i f).members[j]? =
      es.members[j]?.map fun s => { s with layer := if i = j then f s.layer else s.layer } := by
  rw [changeLayer, List.getElem?_modify]
  refine congrArg (fun g : Stack → Stack => es.members[j]?.map g) (funext fun s => ?_)
  split
  · rfl
  · rfl

namespace Records

variable {es : Environments} {hs : List History}

theorem exists_member (hr : es.Records hs) {i : Nat} {h : History} (hi : hs[i]? = some h) :
    ∃ s, es.members[i]? = some s ∧ es.Keeps i s h := by
  have hlt : i < es.members.length := by
    rw [hr.length]
    exact (List.getElem?_eq_some_iff.1 hi).1
  exact ⟨es.members[i], List.getElem?_eq_getElem hlt, hr.keeps i _ h (List.getElem?_eq_getElem hlt) hi⟩

/-- One more environment; those that there were are as they were. -/
theorem append (hr : es.Records hs) {s : Stack} {h : History}
    (hs' : ({ es with members := es.members ++ [s] } : Environments).Keeps es.members.length s h) :
    ({ es with members := es.members ++ [s] } : Environments).Records (hs ++ [h]) where
  length := by simp only [List.length_append, hr.length, List.length_singleton]
  keeps := fun i t g ht hg => by
    rcases Nat.lt_or_ge i es.members.length with hlt | hge
    · rw [List.getElem?_append_left hlt] at ht
      rw [List.getElem?_append_left (hr.length ▸ hlt)] at hg
      have hk := hr.keeps i t g ht hg
      refine ⟨hk.layer, hk.root, fun j hj => ?_⟩
      obtain ⟨hji, u, hu, hbelow⟩ := hk.upon j hj
      exact ⟨hji, u, (List.getElem?_append_left (Nat.lt_trans hji hlt)).trans hu, hbelow⟩
    · rw [List.getElem?_append_right hge, List.getElem?_singleton] at ht
      rw [List.getElem?_append_right (hr.length ▸ hge), List.getElem?_singleton] at hg
      split at ht
      · rename_i hzero
        obtain rfl : i = es.members.length := by omega
        rw [if_pos (by rw [hr.length]; exact Nat.sub_self _)] at hg
        rw [← Option.some.inj ht, ← Option.some.inj hg]
        exact hs'
      · cases ht

/-- A layer that is changed as its history is; what the environments stand on does not change. -/
theorem changeLayer (hr : es.Records hs) (i : Nat) {f : Layer → Layer} {g : History → History}
    (hlayer : ∀ h, (g h).layer = f h.layer) (hbase : ∀ h, (g h).base = h.base) :
    (es.changeLayer i f).Records (hs.modify i g) where
  length := by simp only [Environments.changeLayer, List.length_modify, hr.length]
  keeps := fun j s' h' hs' hh' => by
    rw [getElem?_changeLayer] at hs'
    rw [List.getElem?_modify] at hh'
    obtain ⟨s, hj, rfl⟩ := Option.map_eq_some_iff.1 hs'
    obtain ⟨h, hh, rfl⟩ := Option.map_eq_some_iff.1 hh'
    have hk := hr.keeps j s h hj hh
    have hb : (if i = j then g h else h).base = h.base := by
      split
      · exact hbase h
      · rfl
    refine ⟨?_, fun hroot => hk.root (hb ▸ hroot), fun k hover => ?_⟩
    · dsimp only
      split
      · rw [hlayer, hk.layer]
      · exact hk.layer
    · obtain ⟨hlt, t, ht, hbelow⟩ := hk.upon k (hb ▸ hover)
      exact ⟨hlt, _, (getElem?_changeLayer es i k f).trans (congrArg _ ht), hbelow⟩

/-- **One step keeps it.** -/
theorem perform (hr : es.Records hs) : ∀ a : Action, (es.perform a).Records (record hs a)
  | .create => hr.append ⟨rfl, fun _ => rfl, nofun⟩
  | .layer i => by
    rw [Environments.perform, record, hr.length]
    split
    · rename_i hlt
      have hlt : i < es.members.length := hr.length ▸ hlt
      refine hr.append ⟨rfl, nofun, fun j hj => ?_⟩
      obtain rfl := Option.some.inj hj
      refine ⟨hlt, es.members[i], ?_, ?_⟩
      · rw [List.getElem?_append_left hlt, List.getElem?_eq_getElem hlt]
      · rw [List.getElem?_eq_getElem hlt, Option.elim_some]
    · exact hr
  | .add i s => hr.changeLayer (f := (·.add s)) i (fun h => (Source.add_inOrder h.added h.profiles s).symm) fun _ => rfl
  | .setProfiles i profiles => hr.changeLayer (f := fun l => { l with profiles }) i (fun _ => rfl) fun _ => rfl

theorem foldl_perform : ∀ {es : Environments} {hs : List History} (done : List Action), es.Records hs →
    (done.foldl Environments.perform es).Records (done.foldl record hs)
  | _, _, [], hr => hr
  | _, _, a :: done, hr => foldl_perform done (hr.perform a)

end Records

/-- **And so it holds after any steps.** -/
theorem records_after (vars : Variables) (done : List Action) : (after vars done).Records (History.ofActions done) :=
  Records.foldl_perform done ⟨rfl, nofun⟩

theorem layers_view {es : Environments} {i : Nat} {s : Stack} (hi : es.members[i]? = some s) :
    (es.view i).layers = s.layer :: s.below.filterMap es.layer? := by
  simp only [view, Environment.layers, layer?, hi, Option.map_some, Option.getD_some, Option.elim_some]

namespace Records

variable {es : Environments} {hs : List History} {i j : Nat} {h : History}

theorem top_view (hr : es.Records hs) (hi : hs[i]? = some h) : (es.view i).top = h.layer := by
  obtain ⟨s, hs, hk⟩ := hr.exists_member hi
  rw [view, layer?, hs, Option.map_some, Option.getD_some, hk.layer]

theorem layers_root (hr : es.Records hs) (hi : hs[i]? = some h) (hbase : h.base = none) :
    (es.view i).layers = [h.layer] := by
  obtain ⟨s, hs, hk⟩ := hr.exists_member hi
  rw [layers_view hs, hk.layer, hk.root hbase, List.filterMap_nil]

theorem layers_over (hr : es.Records hs) (hi : hs[i]? = some h) (hbase : h.base = some j) :
    (es.view i).layers = h.layer :: (es.view j).layers := by
  obtain ⟨s, hs, hk⟩ := hr.exists_member hi
  obtain ⟨-, t, ht, hbelow⟩ := hk.upon j hbase
  have hlayer : es.layer? j = some t.layer := by rw [layer?, ht, Option.map_some]
  rw [layers_view hs, hk.layer, hbelow, List.filterMap_cons_some hlayer, layers_view ht]

/-- What an environment stands on was there before it. -/
theorem le_of_standsOn (hr : es.Records hs) (hij : StandsOn hs i j) : j ≤ i := by
  induction hij with
  | refl => exact Nat.le_refl i
  | tail _ hjk ih =>
    obtain ⟨h, hj, hbase⟩ := hjk
    obtain ⟨s, -, hk⟩ := hr.exists_member hj
    exact Nat.le_trans (Nat.le_of_lt (hk.upon _ hbase).1) ih

/-- To show something of an environment it may be taken as shown of the one that it was laid over. -/
theorem induction (hr : es.Records hs) {P : Nat → Prop} (root : ∀ i h, hs[i]? = some h → h.base = none → P i)
    (upon : ∀ i j h, hs[i]? = some h → h.base = some j → P j → P i) (hi : i < hs.length) : P i := by
  induction i using Nat.strongRecOn with
  | ind i ih =>
    have hget := List.getElem?_eq_getElem hi
    obtain ⟨s, -, hk⟩ := hr.exists_member hget
    cases hbase : hs[i].base with
    | none => exact root i _ hget hbase
    | some j =>
      have hlt := (hk.upon j hbase).1
      exact upon i j _ hget hbase (ih j hlt (Nat.lt_trans hlt hi))

variable {α : Type} {f? : Layer → Option α} {P : History → α → Prop}

/-- **What a walk down the layers finds is what is nearest in the histories.** -/
theorem findSome?_layers_iff (hr : es.Records hs) (hP : ∀ h a, f? h.layer = some a ↔ P h a) {a : α}
    (hi : i < hs.length) : (es.view i).layers.findSome? f? = some a ↔ Nearest hs P i a := by
  refine hr.induction (P := fun i => (es.view i).layers.findSome? f? = some a ↔ Nearest hs P i a)
    (fun i h hi hbase => ?_) (fun i j h hi hbase ih => ?_) hi
  · rw [hr.layers_root hi hbase, List.findSome?_singleton, hP, History.nearest_iff hi, hbase]
    exact ⟨.inl, fun h => h.elim id nofun⟩
  · rw [hr.layers_over hi hbase, List.findSome?_cons, History.nearest_iff hi]
    simp only [hbase, Option.some.injEq, exists_eq_left', ← ih]
    cases hfirst : f? h.layer with
    | some b =>
      rw [← hP, hfirst]
      exact ⟨.inl, fun h => h.elim id fun hnone => absurd ((hP _ b).1 hfirst) (hnone.1 b)⟩
    | none =>
      have hnone : ∀ b, ¬P h b := fun b hb => by
        rw [← hP, hfirst] at hb
        cases hb
      exact ⟨fun hv => .inr ⟨hnone, hv⟩, fun h => h.elim (fun ha => absurd ha (hnone a)) And.right⟩

/-- It finds nothing if there is nothing in what the environment stands on. -/
theorem findSome?_layers_eq_none_iff (hr : es.Records hs) (hi : i < hs.length) :
    (es.view i).layers.findSome? f? = none ↔ ∀ j h, StandsOn hs i j → hs[j]? = some h → f? h.layer = none := by
  refine hr.induction (P := fun i => (es.view i).layers.findSome? f? = none ↔
    ∀ j h, StandsOn hs i j → hs[j]? = some h → f? h.layer = none)
    (fun i h hi hbase => ?_) (fun i j h hi hbase ih => ?_) hi
  · rw [hr.layers_root hi hbase, List.findSome?_singleton,
      History.forall_standsOn_iff (Q := fun h => f? h.layer = none) hi, hbase]
    exact ⟨fun h => ⟨h, nofun⟩, And.left⟩
  · rw [hr.layers_over hi hbase, List.findSome?_eq_none_iff, List.forall_mem_cons, ← List.findSome?_eq_none_iff, ih,
      History.forall_standsOn_iff (Q := fun h => f? h.layer = none) hi, hbase]
    exact and_congr_right' ⟨fun hall k hk => Option.some.inj hk ▸ hall, fun hall => hall j rfl⟩

/-- What an environment stands on decides what it shows. -/
theorem layers_congr (hr : es.Records hs) {es' : Environments} {hs' : List History} (hr' : es'.Records hs')
    (hi : i < hs.length) (hsame : ∀ j h, StandsOn hs i j → hs[j]? = some h → hs'[j]? = some h) :
    (es'.view i).layers = (es.view i).layers := by
  revert hsame
  refine hr.induction (P := fun i => (∀ j h, StandsOn hs i j → hs[j]? = some h → hs'[j]? = some h) →
    (es'.view i).layers = (es.view i).layers) (fun i h hi hbase hsame => ?_) (fun i j h hi hbase ih hsame => ?_) hi
  · rw [hr.layers_root hi hbase, hr'.layers_root (hsame i h .refl hi) hbase]
  · rw [hr.layers_over hi hbase, hr'.layers_over (hsame i h .refl hi) hbase,
      ih fun k g hk => hsame k g (.head ⟨h, hi, hbase⟩ hk)]

end Records

theorem vars_foldl_perform : ∀ (done : List Action) (es : Environments), (done.foldl perform es).vars = es.vars
  | [], _ => rfl
  | a :: done, es => by
    have hstep : (es.perform a).vars = es.vars := by
      cases a with
      | layer i =>
        rw [perform]
        split <;> rfl
      | create => rfl
      | add i s => rfl
      | setProfiles i profiles => rfl
    rw [List.foldl_cons, vars_foldl_perform done, hstep]

/-- The process variables are the ones given. -/
theorem vars_view_after (vars : Variables) (done : List Action) (i : Nat) : ((after vars done).view i).vars = vars :=
  vars_foldl_perform done { vars }

end Environments

namespace History

/-- A history that the step does not change stays as it was. -/
theorem getElem?_record {hs : List History} {i : Nat} {h : History} (hi : hs[i]? = some h) :
    ∀ {a : Action}, a.changed? ≠ some i → (record hs a)[i]? = some h
  | .create, _ => by rwa [record, List.getElem?_append_left (List.getElem?_eq_some_iff.1 hi).1]
  | .layer j, _ => by
    rw [record]
    split
    · rwa [List.getElem?_append_left (List.getElem?_eq_some_iff.1 hi).1]
    · exact hi
  | .add j s, ha => by rwa [record, List.getElem?_modify_ne _ _ fun hji => ha (congrArg some hji)]
  | .setProfiles j profiles, ha => by rwa [record, List.getElem?_modify_ne _ _ fun hji => ha (congrArg some hji)]

theorem getElem?_foldl_record : ∀ {more : List Action} {hs : List History} {i : Nat} {h : History},
    hs[i]? = some h → (∀ a ∈ more, a.changed? ≠ some i) → (more.foldl record hs)[i]? = some h
  | [], _, _, _, hi, _ => hi
  | a :: more, _, _, _, hi, hmore => by
    obtain ⟨ha, hmore⟩ := List.forall_mem_cons.1 hmore
    rw [List.foldl_cons]
    exact getElem?_foldl_record (getElem?_record hi ha) hmore

end History

namespace Environments

theorem answers_view (vars : Variables) (done : List Action) {i : Nat} (hi : i < (History.ofActions done).length) :
    ((after vars done).view i).Answers vars (History.ofActions done) i := by
  have hr := records_after vars done
  have hvars := vars_view_after vars done i
  refine ⟨fun key v => ?_, fun key => ?_, fun ps => ?_, fun h hh => ?_⟩
  · rw [Environment.get?, hvars]
    exact hr.findSome?_layers_iff (fun h v => History.get?_layer) hi
  · rw [Environment.get?, hvars, hr.findSome?_layers_eq_none_iff hi]
    simp only [History.get?_layer_eq_none]
  · have hsome := hr.findSome?_layers_iff (fun h ps => History.profiles?_layer) hi (a := ps)
    have hnone : ((after vars done).view i).layers.findSome? Layer.profiles? = none ↔
        ∀ j h, History.StandsOn (History.ofActions done) i j → (History.ofActions done)[j]? = some h → h.profiles = [] := by
      rw [hr.findSome?_layers_eq_none_iff hi]
      simp only [History.profiles?_layer_eq_none]
    rw [Environment.activeProfiles_eq, ← hsome, ← hnone]
    -- the walk either meets profiles or does not
    cases ((after vars done).view i).layers.findSome? Layer.profiles? with
    | some qs => rw [Option.getD_some, Option.some.injEq, or_iff_left nofun]
    | none =>
      rw [Option.getD_none, or_iff_right nofun, and_iff_left rfl]
      exact eq_comm
  · rw [hr.top_view hh]
    exact Source.inOrder_eq_mergeSort h.added

/-- **Steps on other environments** than those that one stands on leave it as it is. -/
theorem view_after_append (vars : Variables) (done more : List Action) {i : Nat}
    (hi : i < (History.ofActions done).length)
    (hmore : ∀ a ∈ more, ∀ x, a.changed? = some x → ¬History.StandsOn (History.ofActions done) i x) :
    (after vars (done ++ more)).view i = (after vars done).view i := by
  have hr := records_after vars done
  have hr' := records_after vars (done ++ more)
  have hlayers := hr.layers_congr hr' hi fun j h hij hj => by
    rw [History.ofActions, List.foldl_append]
    exact History.getElem?_foldl_record hj fun a ha hchanged => hmore a ha j hchanged hij
  have hvars := (vars_view_after vars (done ++ more) i).trans (vars_view_after vars done i).symm
  exact Environment.eq_of_layers hvars hlayers

end Environments

/-! ### Inline properties -/

section Last

variable {entries : List (String × Value)} {key : String}

theorem lastOf?_eq_some_iff {v : Value} :
    lastOf? entries key = some v ↔ ∃ pre post, entries = pre ++ (key, v) :: post ∧ ∀ p ∈ post, p.1 ≠ key := by
  rw [lastOf?, List.lookup_eq_some_iff]
  constructor
  · rintro ⟨pre, post, h, hpre⟩
    refine ⟨post.reverse, pre.reverse, ?_, fun p hp => ?_⟩
    · rw [← List.reverse_reverse entries, h, List.reverse_append, List.reverse_cons, List.append_assoc,
        List.singleton_append]
    · exact (bne_iff_ne.1 (hpre p (List.mem_reverse.1 hp))).symm
  · rintro ⟨pre, post, rfl, hpost⟩
    refine ⟨post.reverse, pre.reverse, ?_, fun p hp => ?_⟩
    · rw [List.reverse_append, List.reverse_cons, List.append_assoc, List.singleton_append]
    · exact bne_iff_ne.2 (hpost p (List.mem_reverse.1 hp)).symm

theorem lastOf?_eq_none_iff : lastOf? entries key = none ↔ ∀ p ∈ entries, p.1 ≠ key := by
  rw [lastOf?, List.lookup_eq_none_iff]
  simp only [List.mem_reverse, bne_iff_ne, ne_comm]

end Last
end Property

namespace Blueprint

open Property (Action Environment Environments History Source Variables)

/-- The source of the inline properties. -/
def inlineSource (b : Blueprint) : Source := ⟨"inlineFacts", 1000, .settings (b.properties.map fun p => (p.1, .text p.2))⟩

theorem get?_inlineSource_last {b : Blueprint} {pre post : List (String × String)} {key v : String}
    (h : b.properties = pre ++ (key, v) :: post) (hpost : ∀ p ∈ post, p.1 ≠ key) (vars : Variables) :
    b.inlineSource.get? vars key = some (.text v) := by
  refine Property.lastOf?_eq_some_iff.2 ⟨pre.map fun p => (p.1, .text p.2), post.map fun p => (p.1, .text p.2), ?_, ?_⟩
  · rw [h, List.map_append, List.map_cons]
  · exact List.forall_mem_map.2 hpost

theorem get?_inlineSource_other {b : Blueprint} {key : String} (h : ∀ p ∈ b.properties, p.1 ≠ key) (vars : Variables) :
    b.inlineSource.get? vars key = none :=
  Property.lastOf?_eq_none_iff.2 (List.forall_mem_map.2 h)

theorem builtEnvironment_of_none (b : Blueprint) (h : b.properties = []) :
    b.builtEnvironment = b.environment.getD {} := if_pos (List.isEmpty_iff.2 h)

theorem builtEnvironment_of_inline (b : Blueprint) (h : b.properties ≠ []) :
    b.builtEnvironment = (b.environment.getD {}).layered.add b.inlineSource :=
  if_neg fun hempty => h (List.isEmpty_iff.1 hempty)

/-- Inline properties go before the environment's. -/
theorem get?_builtEnvironment (b : Blueprint) (key : String) :
    b.builtEnvironment.get? key =
      (b.inlineSource.get? (b.environment.getD {}).vars key).or ((b.environment.getD {}).get? key) := by
  by_cases hempty : b.properties = []
  · have hnone : ∀ p ∈ b.properties, p.1 ≠ key := by rw [hempty]; nofun
    rw [b.builtEnvironment_of_none hempty, get?_inlineSource_other hnone, Option.none_or]
  · rw [b.builtEnvironment_of_inline hempty, Environment.get?_layered_add]

/-- The steps that make the environment of facts over the one numbered `n`; theirs gets the number `m`. -/
def building (b : Blueprint) (n m : Nat) : List Action := [.layer n, .add m b.inlineSource]

/-- What facts built with inline properties over a shared environment share with it: their environment is a new one over
the shared one.  As long as only others are changed, it answers the last inline value of a key and, for every other
key, what the shared one answers by then.  Building them leaves the environments that there were as they were. -/
structure BuiltOver (vars : Variables) (done : List Action) (n m : Nat) (b : Blueprint) : Prop where
  environment : (build { b with environment := some ((Environments.after vars done).view n) }).environment =
    (Environments.after vars (done ++ b.building n m)).view m
  last : ∀ more, (∀ a ∈ more, Action.changed? a ≠ some m) → ∀ pre key v post,
    b.properties = pre ++ (key, v) :: post → (∀ p ∈ post, p.1 ≠ key) →
      ((Environments.after vars (done ++ b.building n m ++ more)).view m).get? key = some (.text v)
  other : ∀ more, (∀ a ∈ more, Action.changed? a ≠ some m) → ∀ key, (∀ p ∈ b.properties, p.1 ≠ key) →
    ((Environments.after vars (done ++ b.building n m ++ more)).view m).get? key =
      ((Environments.after vars (done ++ b.building n m ++ more)).view n).get? key
  untouched : ∀ i < m, (Environments.after vars (done ++ b.building n m)).view i = (Environments.after vars done).view i

section Building

variable {vars : Variables} {done : List Action} {n m : Nat} {b : Blueprint}
  (hm : m = (History.ofActions done).length)

include hm

theorem history_building (hn : n < m) {more : List Action} (hmore : ∀ a ∈ more, a.changed? ≠ some m) :
    (History.ofActions (done ++ b.building n m ++ more))[m]? = some { base := some n, added := [b.inlineSource] } := by
  rw [History.ofActions, List.foldl_append]
  refine History.getElem?_foldl_record ?_ hmore
  rw [List.foldl_append, ← History.ofActions]
  subst hm
  simp [building, History.record, hn]

/-- The environment of the facts, whatever was done with others since, is the shared one with a layer on top. -/
theorem view_building (hn : n < m) {more : List Action} (hmore : ∀ a ∈ more, a.changed? ≠ some m) :
    (Environments.after vars (done ++ b.building n m ++ more)).view m =
      ((Environments.after vars (done ++ b.building n m ++ more)).view n).layered.add b.inlineSource := by
  have hr := Environments.records_after vars (done ++ b.building n m ++ more)
  exact Environment.eq_of_layers rfl (hr.layers_over (history_building hm hn hmore) rfl)

/-- The one environment that is changed is the new one, on which none of the others stands. -/
theorem view_before_building {i : Nat} (hi : i < m) :
    (Environments.after vars (done ++ b.building n m)).view i = (Environments.after vars done).view i := by
  refine Environments.view_after_append vars done _ (hm ▸ hi) fun a ha x hx hstands => ?_
  have hle := (Environments.records_after vars done).le_of_standsOn hstands
  rcases List.mem_pair.1 ha with rfl | rfl
  · cases hx
  · obtain rfl := Option.some.inj hx
    omega

theorem builtOver (hb : b.properties ≠ []) (hn : n < m) : b.BuiltOver vars done n m where
  environment := by
    have hview : (Environments.after vars (done ++ b.building n m)).view m =
        ((Environments.after vars (done ++ b.building n m)).view n).layered.add b.inlineSource := by
      simpa only [List.append_nil] using view_building hm hn (List.forall_mem_nil _)
    rw [hview, view_before_building hm hn]
    exact builtEnvironment_of_inline _ hb
  last := fun more hmore pre key v post hlast hpost => by
    rw [view_building hm hn hmore, Environment.get?_layered_add, get?_inlineSource_last hlast hpost, Option.some_or]
  other := fun more hmore key hkey => by
    rw [view_building hm hn hmore, Environment.get?_layered_add, get?_inlineSource_other hkey, Option.none_or]
  untouched := fun _ => view_before_building hm

end Building

end Blueprint

namespace Property

/-- **Layered properties**: whatever was done with several environments, in whatever order, each answers as the
histories on the way down from it say; further steps leave it as it is unless they change one that it stands on; and
facts built with inline properties over one of them keep these to themselves. -/
theorem answers_after (vars : Variables) (done : List Action) :
    (∀ i < (History.ofActions done).length,
      ((Environments.after vars done).view i).Answers vars (History.ofActions done) i) ∧
    (∀ i < (History.ofActions done).length, ∀ more : List Action,
      (∀ a ∈ more, ∀ x, a.changed? = some x → ¬History.StandsOn (History.ofActions done) i x) →
        (Environments.after vars (done ++ more)).view i = (Environments.after vars done).view i) ∧
    ∀ n < (History.ofActions done).length, ∀ b : Blueprint, b.properties ≠ [] →
      b.BuiltOver vars done n (History.ofActions done).length :=
  ⟨fun _ => Environments.answers_view vars done, fun _ hi more => Environments.view_after_append vars done more hi,
    fun _ hn _ hb => Blueprint.builtOver rfl hb hn⟩

/-- A lower layer with a source of greater priority, equals, and a source that came to the base after it was built
on. -/
theorem answers_after_base_changed :
    let first : Source := ⟨"first", 50, .settings [("k", .text "low"), ("j", .text "first")]⟩
    let later : Source := ⟨"later", 50, .settings [("j", .text "later"), ("m", .text "late")]⟩
    let upper : Source := ⟨"upper", -7, .settings [("k", .text "high")]⟩
    let e := (Environments.after []
      [.create, .add 0 first, .layer 0, .setProfiles 0 ["p"], .layer 1, .add 1 upper, .add 0 later]).view 2
    e.get? "k" = some (.text "high") ∧ e.get? "j" = some (.text "first") ∧ e.get? "m" = some (.text "late") ∧
      e.get? "x" = none ∧ e.activeProfiles = ["p"] := by
  intro first later upper e
  have ha := (answers_after []
    [.create, .add 0 first, .layer 0, .setProfiles 0 ["p"], .layer 1, .add 1 upper, .add 0 later]).1 2 (by decide)
  -- of the lower layers only the upper one has the first key, and only the base has the others and profiles
  have hnone : ∀ (key : String) (v : Value), ¬History.Gives [] key ⟨some 1, [], []⟩ v := by
    rintro key v ⟨pre, s, post, h, -⟩
    simp at h
  have hupper : ∀ key, upper.get? [] key = none → ∀ v, ¬History.Gives [] key ⟨some 0, [upper], []⟩ v := by
    rintro key hkey v hv
    rw [← History.get?_layer, History.get?_layer_eq_none.2 (by simpa using hkey)] at hv
    cases hv
  have hx : ∀ h ∈ ([⟨none, [first, later], ["p"]⟩, ⟨some 0, [upper], []⟩, ⟨some 1, [], []⟩] : List History),
      ∀ s ∈ h.added, s.get? [] "x" = none := by simp [first, later, upper, Source.get?, lastOf?]
  refine ⟨(ha.value _ _).2 (.down rfl (hnone _) rfl (.here rfl ⟨[], upper, [], rfl, rfl, nofun, nofun⟩)),
    (ha.value _ _).2 (.down rfl (hnone _) rfl (.down rfl (hupper _ rfl) rfl
      (.here rfl ⟨[], first, [later], rfl, rfl, nofun, fun t ht _ => ?_⟩))),
    (ha.value _ _).2 (.down rfl (hnone _) rfl (.down rfl (hupper _ rfl) rfl
      (.here rfl ⟨[first], later, [], rfl, rfl, fun t ht hne => ?_, nofun⟩))),
    (ha.unset _).2 fun j h _ hj s hs => ?_,
    (ha.profiles _).2 (.inl (.down rfl (fun ps hps => hps.2 hps.1.symm) rfl
      (.down rfl (fun ps hps => hps.2 hps.1.symm) rfl (.here rfl ⟨rfl, by decide⟩))))⟩
  · exact List.mem_singleton.1 ht ▸ Int.le_refl _
  · have hfirst : first.get? [] "m" = none := rfl
    exact absurd hfirst (List.mem_singleton.1 ht ▸ hne)
  · exact hx h (List.mem_of_getElem? hj) s hs

end Property
end Wiring
