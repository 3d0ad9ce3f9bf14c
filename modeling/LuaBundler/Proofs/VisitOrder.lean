/-
# The order of a depth-first traversal

`Adds` is the traversal of `Visits` with nothing but its order: each name has the names `next`
that follow it, and `ok` says which names are found.  A traversal adds to the names it has seen
those that it can reach (`Adds.mem_of_reached`), and each one stands behind a name that it
follows, if it was not asked for at first (`Adds.exists_before`).

It need not stand behind all names that it follows.  It does, in a graph without cycles, if and
only if the lists are `Untangled` (`Adds.pairwise_iff`): a name of a list is reached from those
behind it, or reaches nothing that they reach.  The names behind it are visited first, and so is
all that they reach.  If they do not reach the name, but something that it reaches, this is
visited before it.
-/

import Mathlib.Logic.Relation
import LuaBundler.Proofs.DepthFirst
import LuaBundler.Proofs.Reachability

namespace LuaBundler
namespace Bundle

/-- The name is one of `names`, or follows one of them, directly or through others. -/
def Reached (next : String → List String) (names : List String) (n : String) : Prop :=
  ∃ m ∈ names, Relation.ReflTransGen (fun a b => b ∈ next a) m n

variable {next : String → List String} {ok : String → Prop} {names later seen new : List String}
  {m n p : String}

namespace Reached

theorem of_mem (h : n ∈ names) : Reached next names n := ⟨n, h, .refl⟩

/-- What follows a name that is reached is reached. -/
theorem tail (h : Reached next names n) (hm : m ∈ next n) : Reached next names m := by
  obtain ⟨a, ha, hn⟩ := h
  exact ⟨a, ha, hn.tail hm⟩

theorem mono (h : Reached next names n) (hsub : ∀ m ∈ names, m ∈ later) :
    Reached next later n := by
  obtain ⟨a, ha, hn⟩ := h
  exact ⟨a, hsub a ha, hn⟩

theorem cons (h : Reached next later n) : Reached next (p :: later) n :=
  h.mono fun _ => List.mem_cons_of_mem p

/-- What is reached from what follows a name is reached from the name. -/
theorem of_next (h : Reached next (next p) n) : Reached next [p] n := by
  obtain ⟨a, ha, hn⟩ := h
  exact ⟨p, List.mem_singleton_self p, .head ha hn⟩

/-- What is reached from the first name is reached. -/
theorem of_head (h : Reached next [p] n) : Reached next (p :: later) n :=
  h.mono fun _ hm => List.mem_cons.2 (.inl (List.mem_singleton.1 hm))

/-- Whatever is reached lies in each set that holds the names and is closed. -/
theorem induction {P : String → Prop} (h : Reached next names n) (hnames : ∀ m ∈ names, P m)
    (hnext : ∀ a, Reached next names a → P a → ∀ m ∈ next a, P m) : P n := by
  obtain ⟨a, ha, hn⟩ := h
  induction hn with
  | refl => exact hnames a ha
  | tail hab hbc ih => exact hnext _ ⟨a, ha, hab⟩ ih _ hbc

end Reached

/-- What is reached from what follows a name is reached from it in one step or more. -/
theorem transGen_of_reached_next (h : Reached next (next p) n) :
    Relation.TransGen (fun a b => b ∈ next a) p n := by
  obtain ⟨a, ha, hn⟩ := h
  exact .head' ha hn

/-- A traversal that has seen the names `seen` and goes through some names, from the last to the
first, adds the names `new`, in this order. -/
inductive Adds (next : String → List String) (ok : String → Prop) :
    List String → List String → List String → Prop
  /-- There are no names. -/
  | nil {seen : List String} : Adds next ok seen [] []
  /-- The first name was seen before. -/
  | known {seen later new : List String} {p : String} (hlater : Adds next ok seen later new)
      (hv : p ∈ seen ++ new) : Adds next ok seen (p :: later) new
  /-- The first name is not found. -/
  | missing {seen later new : List String} {p : String} (hlater : Adds next ok seen later new)
      (hv : p ∉ seen ++ new) (hp : ¬ ok p) : Adds next ok seen (p :: later) new
  /-- The first name is added, and then what follows it. -/
  | found {seen later new below : List String} {p : String}
      (hlater : Adds next ok seen later new) (hv : p ∉ seen ++ new) (hp : ok p)
      (hnext : Adds next ok (seen ++ new ++ [p]) (next p) below) :
      Adds next ok seen (p :: later) (new ++ p :: below)

namespace Adds

/-- No name is added twice. -/
theorem nodup (h : Adds next ok seen names new) (hseen : seen.Nodup) : (seen ++ new).Nodup := by
  induction h with
  | nil => rwa [List.append_nil]
  | known _ _ ih => exact ih hseen
  | missing _ _ _ ih => exact ih hseen
  | @found seen later new below p _ hv _ _ ih ihnext =>
    have hall : (seen ++ new ++ [p]).Nodup := by
      refine List.nodup_append.2 ⟨ih hseen, by simp, fun a ha b hb hab => hv ?_⟩
      rwa [← List.mem_singleton.1 hb, ← hab]
    simpa using ihnext hall

/-- The names themselves are seen at the end, if they are found. -/
theorem mem_of_ok (h : Adds next ok seen names new) (hn : n ∈ names) (hok : ok n) :
    n ∈ seen ++ new := by
  induction h with
  | nil => cases hn
  | known _ hv ih =>
    rcases List.mem_cons.1 hn with rfl | hn
    · exact hv
    · exact ih hn
  | missing _ _ hp ih =>
    rcases List.mem_cons.1 hn with rfl | hn
    · exact absurd hok hp
    · exact ih hn
  | found _ _ _ _ ih _ =>
    rw [← List.append_assoc]
    rcases List.mem_cons.1 hn with rfl | hn
    · exact List.mem_append_right _ List.mem_cons_self
    · exact List.mem_append_left _ (ih hn)

/-- What follows an added name is seen at the end, if it is found. -/
theorem mem_of_mem_next (h : Adds next ok seen names new) (hn : n ∈ new) (hm : m ∈ next n)
    (hok : ok m) : m ∈ seen ++ new := by
  induction h with
  | nil => cases hn
  | known _ _ ih => exact ih hn
  | missing _ _ _ ih => exact ih hn
  | @found seen later new below p _ _ _ hnext ih ihnext =>
    rw [← List.append_assoc]
    have hbelow : m ∈ seen ++ new ++ [p] ++ below → m ∈ seen ++ new ++ p :: below := by simp
    rcases List.mem_append.1 hn with hn | hn
    · exact List.mem_append_left _ (ih hn)
    · rcases List.mem_cons.1 hn with rfl | hn
      · exact hbelow (hnext.mem_of_ok hm hok)
      · exact hbelow (ihnext hn)

/-- Only names that are reached are added. -/
theorem reached (h : Adds next ok seen names new) (hn : n ∈ new) : Reached next names n := by
  induction h with
  | nil => cases hn
  | known _ _ ih => exact (ih hn).cons
  | missing _ _ _ ih => exact (ih hn).cons
  | found _ _ _ _ ih ihnext =>
    rcases List.mem_append.1 hn with hn | hn
    · exact (ih hn).cons
    · rcases List.mem_cons.1 hn with rfl | hn
      · exact .of_mem List.mem_cons_self
      · exact (ihnext hn).of_next.of_head

/-- **All that is reached is added**, if everything is found and nothing of it was seen. -/
theorem mem_of_reached (h : Adds next ok seen names new)
    (hok : ∀ n, Reached next names n → ok n) (hseen : ∀ n, Reached next names n → n ∉ seen)
    (hn : Reached next names n) : n ∈ new := by
  refine hn.induction (P := (· ∈ new)) (fun m hm => ?_) (fun a ha hmem m hm => ?_)
  · have hmem := h.mem_of_ok hm (hok m (.of_mem hm))
    exact (List.mem_append.1 hmem).resolve_left (hseen m (.of_mem hm))
  · have hmem := h.mem_of_mem_next hmem hm (hok m (ha.tail hm))
    exact (List.mem_append.1 hmem).resolve_left (hseen m (ha.tail hm))

/-- **A name that is added and not asked for at first stands behind one that it follows.** -/
theorem exists_before (h : Adds next ok seen names new) (hn : n ∈ new) :
    n ∈ names ∨ ∃ u ∈ new, n ∈ next u ∧ [u, n].Sublist new := by
  induction h with
  | nil => cases hn
  | known _ _ ih => exact (ih hn).imp_left (List.mem_cons_of_mem _)
  | missing _ _ _ ih => exact (ih hn).imp_left (List.mem_cons_of_mem _)
  | @found seen later new below p _ _ _ _ ih ihnext =>
    rcases List.mem_append.1 hn with hn | hn
    · rcases ih hn with hlater | ⟨u, hu, hnu, hbefore⟩
      · exact .inl (List.mem_cons_of_mem p hlater)
      · exact .inr ⟨u, List.mem_append_left _ hu, hnu,
          hbefore.trans (List.sublist_append_left _ _)⟩
    · rcases List.mem_cons.1 hn with rfl | hn
      · exact .inl List.mem_cons_self
      · right
        rcases ihnext hn with hnp | ⟨u, hu, hnu, hbefore⟩
        · have hfirst : [p, n].Sublist (p :: below) :=
            (List.singleton_sublist.2 hn).cons_cons p
          exact ⟨p, by simp, hnp, hfirst.trans (List.sublist_append_right _ _)⟩
        · refine ⟨u, by simp [hu], hnu, hbefore.trans ?_⟩
          exact (List.sublist_cons_self p below).trans (List.sublist_append_right _ _)

end Adds

/-- The name reaches nothing that is reached from `later`. -/
def Apart (next : String → List String) (p : String) (later : List String) : Prop :=
  ∀ n, Reached next [p] n → ¬ Reached next later n

/-- Each name of a list is reached from those behind it, or reaches nothing that they reach. -/
def Untangled (next : String → List String) : List String → Prop
  | [] => True
  | p :: later => (Reached next later p ∨ Apart next p later) ∧ Untangled next later

section Below

variable {below : List String}

/-- If nothing that follows a name is added ahead of it, a name that is not added before is apart
from what is. -/
theorem apart_of_pairwise (hnew : ∀ n, Reached next later n → n ∈ new) (hp : p ∉ new)
    (hall : ∀ n, Reached next [p] n → n ∈ new ++ p :: below)
    (h : (new ++ p :: below).Pairwise fun a b => a ∉ next b) : Apart next p later := by
  have hbehind : ∀ n, Reached next [p] n → n ∉ new := by
    intro n hn
    refine hn.induction (P := (· ∉ new)) (fun m hm => ?_) (fun a ha hnot m hm hmem => ?_)
    · rwa [List.mem_singleton.1 hm]
    · have ha' : a ∈ p :: below := (List.mem_append.1 (hall a ha)).resolve_left hnot
      exact (List.pairwise_append.1 h).2.2 m hmem a ha' hm
  exact fun n hn hlater => hbehind n hn (hnew n hlater)

/-- What is added for a name that is apart can stand behind what was added before. -/
theorem pairwise_append_cons_iff (hnew : ∀ n ∈ new, Reached next later n)
    (hbelow : ∀ n ∈ below, Reached next (next p) n) (hapart : Apart next p later)
    (hacyclic : ¬ Relation.TransGen (fun a b => b ∈ next a) p p) :
    ((new ++ p :: below).Pairwise fun a b => a ∉ next b) ↔
      (new.Pairwise fun a b => a ∉ next b) ∧ below.Pairwise fun a b => a ∉ next b := by
  have hfirst : ∀ b ∈ below, p ∉ next b := fun b hb hpb =>
    hacyclic (transGen_of_reached_next ((hbelow b hb).tail hpb))
  have hbetween : ∀ a ∈ new, ∀ b ∈ p :: below, a ∉ next b := by
    intro a ha b hb hab
    have hreached : Reached next [p] b := by
      rcases List.mem_cons.1 hb with rfl | hb
      · exact .of_mem List.mem_cons_self
      · exact (hbelow b hb).of_next
    exact hapart a (hreached.tail hab) (hnew a ha)
  rw [List.pairwise_append, List.pairwise_cons]
  tauto

end Below

/-- **In a graph without cycles no name follows one behind it if and only if the lists are
untangled**, where everything is found and nothing of it was seen. -/
theorem Adds.pairwise_iff (h : Adds next ok seen names new)
    (hok : ∀ n, Reached next names n → ok n)
    (hacyclic : ∀ n, Reached next names n → ¬ Relation.TransGen (fun a b => b ∈ next a) n n)
    (hseen : ∀ n, Reached next names n → n ∉ seen) :
    (new.Pairwise fun a b => a ∉ next b) ↔
      Untangled next names ∧ ∀ u ∈ new, Untangled next (next u) := by
  induction h with
  | nil => simp [Untangled]
  | @known seen later new p hlater hv ih =>
    have hreached : Reached next later p :=
      hlater.reached ((List.mem_append.1 hv).resolve_left (hseen p (.of_mem List.mem_cons_self)))
    rw [ih (fun n hn => hok n hn.cons) (fun n hn => hacyclic n hn.cons)
      fun n hn => hseen n hn.cons, Untangled]
    tauto
  | missing _ _ hp => exact absurd (hok _ (.of_mem List.mem_cons_self)) hp
  | @found seen later new below p hlater hv hp hnext ih ihnext =>
    have hnew : ∀ n, Reached next later n → n ∈ new := fun n hn =>
      hlater.mem_of_reached (fun n hn => hok n hn.cons) (fun n hn => hseen n hn.cons) hn
    have hpnew : p ∉ new := fun hmem => hv (List.mem_append_right _ hmem)
    have hpcycle := hacyclic p (.of_mem List.mem_cons_self)
    have hhead : ¬ Reached next later p := mt (hnew p) hpnew
    by_cases hapart : Apart next p later
    · have hbehind : ∀ n, Reached next (next p) n → n ∉ seen ++ new ++ [p] := by
        intro n hn hmem
        simp only [List.mem_append, List.mem_singleton] at hmem
        rcases hmem with (hmem | hmem) | rfl
        · exact hseen n hn.of_next.of_head hmem
        · exact hapart n hn.of_next (hlater.reached hmem)
        · exact hpcycle (transGen_of_reached_next hn)
      rw [pairwise_append_cons_iff (fun n hn => hlater.reached hn) (fun n hn => hnext.reached hn)
        hapart hpcycle,
        ih (fun n hn => hok n hn.cons) (fun n hn => hacyclic n hn.cons)
          (fun n hn => hseen n hn.cons),
        ihnext (fun n hn => hok n hn.of_next.of_head)
          (fun n hn => hacyclic n hn.of_next.of_head) hbehind, Untangled]
      simp only [List.forall_mem_append, List.forall_mem_cons]
      tauto
    · have hall : ∀ n, Reached next [p] n → n ∈ new ++ p :: below := fun n hn =>
        (Adds.found hlater hv hp hnext).mem_of_reached hok hseen hn.of_head
      constructor
      · exact fun hpairwise => absurd (apart_of_pairwise hnew hpnew hall hpairwise) hapart
      · rintro ⟨⟨hreached | hapart', -⟩, -⟩
        · exact absurd hreached hhead
        · exact absurd hapart' hapart

/-- **The traversal of a bundle adds names in this way.**  The loader is steady, so a name stands
for the same module at all times. -/
theorem Visits.adds {l : Loader} {o : Options} {entry : String} {r : Resolver} {t t' : Tour}
    (h : Visits l o entry names t t') (hsees : Resolver.Sees l (r.module? l) t.resolver) :
    Resolver.Sees l (r.module? l) t'.resolver ∧ ∃ new, t'.order = t.order ++ new ∧
      Adds (successors l o r) (r.Resolvable l) t.order names new := by
  induction h with
  | nil => exact ⟨hsees, [], (List.append_nil _).symm, .nil⟩
  | known _ hv ih =>
    obtain ⟨hsees₁, new, horder, hadds⟩ := ih hsees
    exact ⟨hsees₁, new, horder, .known hadds (horder ▸ hv)⟩
  | @missing name later t t₁ _ _ hv hr ih =>
    obtain ⟨hsees₁, new, horder, hadds⟩ := ih hsees
    obtain ⟨hview, hsees₂⟩ := hsees₁.resolve (Resolver.Resolution.of_eq hr)
    have hok : ¬ r.Resolvable l name := by
      rw [Resolver.resolvable_iff_module?, ← hview]
      simp
    exact ⟨hsees₂, new, horder, .missing hadds (horder ▸ hv) hok⟩
  | @found name later t t₁ t₂ m _ _ hv hr _ ih ihnext =>
    obtain ⟨hsees₁, new, horder, hadds⟩ := ih hsees
    obtain ⟨hview, hsees₂⟩ := hsees₁.resolve (Resolver.Resolution.of_eq hr)
    obtain ⟨hsees₃, below, horder', hbelow⟩ := ihnext hsees₂
    rw [horder, ← successors_of_module? hview.symm] at hbelow
    refine ⟨hsees₃, new ++ name :: below, ?_, .found hadds (horder ▸ hv) ?_ hbelow⟩
    · simp [horder', horder]
    · exact Resolver.resolvable_iff_module?.2 ⟨m, hview.symm⟩

/-- The modules of a bundle are the names that a traversal of the imports of the entry adds. -/
theorem exists_adds_modules {l : Loader} {o : Options} {entry : String} {r r' : Resolver}
    {b : Bundle} (hl : l.SteadyAfter r.requests) {h : Ends l o entry r}
    (hb : ofEntry l o entry r h = (.ok b, r')) :
    ∃ raw, l.load r.requests ⟨entry⟩ = .ok raw ∧ Adds (successors l o r) (r.Resolvable l) []
      (Lua.imports (o.prelude.apply entry raw)) b.modules := by
  obtain ⟨raw, hraw, rfl, -⟩ := exists_of_ofEntry_eq_ok hb
  refine ⟨raw, hraw, ?_⟩
  set contents := o.prelude.apply entry raw
  let first : Tour := { resolver := (r.ask l ⟨entry⟩).2 }
  have hfirst : Agrees (start o entry contents (r.ask l ⟨entry⟩).2) first :=
    ⟨rfl, rfl, Resolver.foldl_note_store _ _, Resolver.foldl_note_requests _ _⟩
  obtain ⟨t, ht, hagrees⟩ := hfirst.finish (h raw hraw)
  rw [start, List.reverse_reverse] at ht
  have hsees : Resolver.Sees l (r.module? l) r := ⟨hl, fun _ => rfl⟩
  obtain ⟨-, new, horder, hadds⟩ := ht.adds (hsees.ask ⟨entry⟩)
  rw [ofWalk, hagrees.order, horder]
  exact hadds

end Bundle
end LuaBundler
