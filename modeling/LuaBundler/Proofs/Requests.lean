/-
# What bundling asks of the loader

A step of a walk is one of five (`Outcome`): the name was visited before, its module is
stored, it has no path, the loader refuses its path, or the loader gives a text.  Only in
the last two cases is the loader asked, once, for the path of the name, and only in the last
one is something stored, under that name.

So a store grows by the modules that were visited and not stored before, in the order of the
visits (`Extends`), and the names for which the loader is asked are those names and the
reported ones that have a path (`Asks.perm`).  Nothing here is asked of the loader, which may
change its answers from one request to the next.
-/

import LuaBundler.Proofs.Walk

namespace LuaBundler

namespace Store

variable {s s' : Store} {name : String} {m : Module}

/-- Insertion under a free name appends one entry. -/
theorem entries_insert_of_not_mem (h : name ∉ s.names) :
    (s.insert name m).entries = s.entries ++ [(name, m)] := by
  unfold insert
  rw [dif_neg h]

theorem names_insert_of_not_mem (h : name ∉ s.names) :
    (s.insert name m).names = s.names ++ [name] := by
  rw [names, entries_insert_of_not_mem h, List.map_append]
  rfl

theorem mem_names_of_get? (h : s.get? name = some m) : name ∈ s.names := by
  by_contra hn
  rw [get?_eq_none_iff.2 hn] at h
  cases h

/-- What `s'` holds beyond `s` stands behind it, under those of `names` that `s` lacks. -/
def Extends (s : Store) (names : List String) (s' : Store) : Prop :=
  ∃ new, s'.entries = s.entries ++ new ∧ new.map Prod.fst = names.filter (· ∉ s.names)

namespace Extends

variable {names : List String}

theorem refl (s : Store) : s.Extends [] s := ⟨[], by simp⟩

/-- The names in a store that has grown. -/
theorem names_eq (h : s.Extends names s') :
    s'.names = s.names ++ names.filter (· ∉ s.names) := by
  obtain ⟨new, hentries, hnew⟩ := h
  rw [Store.names, hentries, List.map_append, hnew]
  rfl

/-- What was stored stays so. -/
theorem get?_of_get? (h : s.Extends names s') (hm : s.get? name = some m) :
    s'.get? name = some m := by
  obtain ⟨new, hentries, -⟩ := h
  have hlookup : s.entries.lookup name = some m := hm
  rw [get?, hentries, List.lookup_append, hlookup]
  rfl

/-- One more name that is stored already. -/
theorem concat_of_mem (h : s.Extends names s') (hs : name ∈ s'.names) (hv : name ∉ names) :
    s.Extends (names ++ [name]) s' := by
  have hold : name ∈ s.names := by
    rw [h.names_eq, List.mem_append] at hs
    exact hs.resolve_right fun hf => hv (List.mem_of_mem_filter hf)
  obtain ⟨new, hentries, hnew⟩ := h
  refine ⟨new, hentries, ?_⟩
  rw [hnew, List.filter_append, List.filter_cons_of_neg (by simpa using hold), List.filter_nil,
    List.append_nil]

/-- One more name, and its module is stored. -/
theorem concat_insert (h : s.Extends names s') (hs : name ∉ s'.names) :
    s.Extends (names ++ [name]) (s'.insert name m) := by
  have hold : name ∉ s.names := fun hmem => by
    rw [h.names_eq] at hs
    exact hs (List.mem_append_left _ hmem)
  obtain ⟨new, hentries, hnew⟩ := h
  refine ⟨new ++ [(name, m)], ?_, ?_⟩
  · rw [entries_insert_of_not_mem hs, hentries, List.append_assoc]
  · rw [List.map_append, hnew, List.filter_append, List.filter_cons_of_pos (by simpa using hold)]
    rfl

end Extends

end Store

namespace Bundle

/-- The name has a path, at which a loader can be asked for it. -/
def hasPath (name : String) : Bool := (Module.path? name).isSome

namespace Walk

variable {l : Loader} {o : Options} {entry : String} {w w' w'' : Walk} {name : String}

/-- What a step at `name` does to the names visited, the reports, the requests and the
store. -/
inductive Outcome (l : Loader) (entry : String) (w : Walk) (name : String) (w' : Walk) : Prop
  /-- The name was visited before. -/
  | known (hvisited : w'.visited = w.visited) (hreports : w'.unresolved = w.unresolved)
      (hrequests : w'.resolver.requests = w.resolver.requests)
      (hstore : w'.resolver.store = w.resolver.store)
  /-- The module was stored. -/
  | stored (hv : name ∉ w.visited) (hs : name ∈ w.resolver.store.names)
      (hvisited : w'.visited = name :: w.visited) (hreports : w'.unresolved = w.unresolved)
      (hrequests : w'.resolver.requests = w.resolver.requests)
      (hstore : w'.resolver.store = w.resolver.store)
  /-- The name has no path. -/
  | pathless (hp : Module.path? name = none) (hvisited : w'.visited = w.visited)
      (hreports : w'.unresolved = ⟨name, entry⟩ :: w.unresolved)
      (hrequests : w'.resolver.requests = w.resolver.requests)
      (hstore : w'.resolver.store = w.resolver.store)
  /-- The loader was asked for the path, and refused it. -/
  | refused {path : Path} {error : LoadError} (hs : name ∉ w.resolver.store.names)
      (hp : Module.path? name = some path)
      (hl : l.load w.resolver.requests path = .error error) (hvisited : w'.visited = w.visited)
      (hreports : w'.unresolved = ⟨name, entry⟩ :: w.unresolved)
      (hrequests : w'.resolver.requests = path :: w.resolver.requests)
      (hstore : w'.resolver.store = w.resolver.store)
  /-- The loader was asked for the path, and its text was stored. -/
  | loaded {path : Path} {source : List Char} (hs : name ∉ w.resolver.store.names)
      (hp : Module.path? name = some path) (hl : l.load w.resolver.requests path = .ok source)
      (hvisited : w'.visited = name :: w.visited) (hreports : w'.unresolved = w.unresolved)
      (hrequests : w'.resolver.requests = path :: w.resolver.requests)
      (hstore : w'.resolver.store = w.resolver.store.insert name (.ofSource name source))

/-- **Every step is one of the five.** -/
theorem Step.outcome (hs : Step l o entry w name w') : Outcome l entry w name w' := by
  cases hs with
  | known hp hv => exact .known rfl rfl rfl rfl
  | missing hp hv hr =>
    cases Resolver.Resolution.of_eq hr with
    | pathless hn hpath => exact .pathless hpath rfl rfl rfl rfl
    | refused hn hpath hl =>
      exact .refused (Store.get?_eq_none_iff.1 hn) hpath hl rfl rfl rfl rfl
  | @found rest m r hp hv hr =>
    have hrequests := Resolver.foldl_note_requests (o.eventsAt name) r
    have hstore := Resolver.foldl_note_store (o.eventsAt name) r
    cases Resolver.Resolution.of_eq hr with
    | stored hn => exact .stored hv (Store.mem_names_of_get? hn) rfl rfl hrequests hstore
    | loaded hn hpath hl =>
      exact .loaded (Store.get?_eq_none_iff.1 hn) hpath hl rfl rfl hrequests hstore

/-- **The store grows by the visited modules** that it lacks. -/
theorem Step.extends_store (hs : Step l o entry w name w') {s : Store}
    (h : s.Extends w.visited.reverse w.resolver.store) :
    s.Extends w'.visited.reverse w'.resolver.store := by
  have hnot : name ∉ w.visited → name ∉ w.visited.reverse := mt List.mem_reverse.1
  cases hs.outcome with
  | known hvisited _ _ hstore => rwa [hvisited, hstore]
  | stored hv hmem hvisited _ _ hstore =>
    rw [hvisited, hstore, List.reverse_cons]
    exact h.concat_of_mem hmem (hnot hv)
  | pathless _ hvisited _ _ hstore => rwa [hvisited, hstore]
  | refused _ _ _ hvisited _ _ hstore => rwa [hvisited, hstore]
  | loaded hmem _ _ hvisited _ _ hstore =>
    rw [hvisited, hstore, List.reverse_cons]
    exact h.concat_insert hmem

/-- At its end a walk has stored the visited modules that were not stored before. -/
theorem extends_finish {s : Store} (he : w.Ends l o entry)
    (h : s.Extends w.visited.reverse w.resolver.store) :
    s.Extends (w.finish l o entry he).visited.reverse (w.finish l o entry he).resolver.store :=
  finish_induction (P := fun w => s.Extends w.visited.reverse w.resolver.store) he h
    fun _ _ _ h hs => hs.extends_store h

/-- A part of a walk, from its first state to its last, and the requests made on the way:
each with the name that was looked at when it was made. -/
inductive Asks (l : Loader) (o : Options) (entry : String) :
    Walk → List (String × Path) → Walk → Prop
  /-- No step is made. -/
  | refl {w : Walk} : Asks l o entry w [] w
  /-- The first step makes the requests `paths`. -/
  | step {w w' w'' : Walk} {name : String} {paths : List Path} {asks : List (String × Path)}
      (hs : Step l o entry w name w')
      (hr : w'.resolver.requests = paths.reverse ++ w.resolver.requests)
      (h : Asks l o entry w' asks w'') :
      Asks l o entry w (paths.map (name, ·) ++ asks) w''

/-- What is stored stays so in a step. -/
theorem Step.names_subset (hs : Step l o entry w name w') :
    w.resolver.store.names ⊆ w'.resolver.store.names := by
  intro n hn
  cases hs.outcome with
  | known _ _ _ hstore => rwa [hstore]
  | stored _ _ _ _ _ hstore => rwa [hstore]
  | pathless _ _ _ _ hstore => rwa [hstore]
  | refused _ _ _ _ _ _ hstore => rwa [hstore]
  | loaded hmem _ _ _ _ _ hstore =>
    rw [hstore, Store.names_insert_of_not_mem hmem]
    exact List.mem_append_left _ hn

/-- **A step asks for one path at most**: that of its name, if it has one and is not
stored.  If the loader gives a text, the name is stored afterwards. -/
theorem Step.paths_eq {paths : List Path} (hs : Step l o entry w name w')
    (hr : w'.resolver.requests = paths.reverse ++ w.resolver.requests) :
    paths = [] ∨ ∃ path, paths = [path] ∧ name ∉ w.resolver.store.names ∧
      Module.path? name = some path ∧
      ∀ source, l.load w.resolver.requests path = .ok source →
        name ∈ w'.resolver.store.names := by
  have hquiet : w'.resolver.requests = w.resolver.requests → paths = [] := fun h => by
    rw [h] at hr
    simpa using hr
  have hasked : ∀ path, w'.resolver.requests = path :: w.resolver.requests → paths = [path] := by
    intro path h
    rw [h, ← List.singleton_append, List.append_cancel_right_eq] at hr
    rw [← List.reverse_reverse paths, ← hr]
    rfl
  cases hs.outcome with
  | known _ _ hrequests _ => exact .inl (hquiet hrequests)
  | stored _ _ _ _ hrequests _ => exact .inl (hquiet hrequests)
  | pathless _ _ _ hrequests _ => exact .inl (hquiet hrequests)
  | @refused path error hmem hp hl _ _ hrequests _ =>
    refine .inr ⟨path, hasked path hrequests, hmem, hp, fun source hsource => ?_⟩
    rw [hl] at hsource
    cases hsource
  | @loaded path source hmem hp _ _ _ hrequests hstore =>
    refine .inr ⟨path, hasked path hrequests, hmem, hp, fun _ _ => ?_⟩
    rw [hstore, Store.names_insert_of_not_mem hmem]
    simp

/-- The names asked for in a step are the one stored in it and the one with a path that is
reported in it. -/
theorem Step.names_paths {paths : List Path} (hs : Step l o entry w name w')
    (hr : w'.resolver.requests = paths.reverse ++ w.resolver.requests) :
    ∃ added reports, w'.resolver.store.names = w.resolver.store.names ++ added ∧
      w'.unresolved = reports ++ w.unresolved ∧
      (paths.map fun _ => name) = added ++ (reports.map Unresolved.name).filter hasPath := by
  have hlength : ∀ k, w'.resolver.requests.length = k + w.resolver.requests.length →
      paths.length = k := by
    intro k hk
    rw [hr, List.length_append, List.length_reverse] at hk
    omega
  rw [List.map_const']
  cases hs.outcome with
  | known _ hreports hrequests hstore =>
    refine ⟨[], [], by rw [hstore, List.append_nil], hreports, ?_⟩
    rw [hlength 0 (by rw [hrequests, Nat.zero_add])]
    rfl
  | stored _ _ _ hreports hrequests hstore =>
    refine ⟨[], [], by rw [hstore, List.append_nil], hreports, ?_⟩
    rw [hlength 0 (by rw [hrequests, Nat.zero_add])]
    rfl
  | pathless hp _ hreports hrequests hstore =>
    refine ⟨[], [⟨name, entry⟩], by rw [hstore, List.append_nil], hreports, ?_⟩
    rw [hlength 0 (by rw [hrequests, Nat.zero_add])]
    simp [hasPath, hp]
  | refused _ hp _ _ hreports hrequests hstore =>
    refine ⟨[], [⟨name, entry⟩], by rw [hstore, List.append_nil], hreports, ?_⟩
    rw [hlength 1 (by rw [hrequests, List.length_cons, Nat.add_comm])]
    simp [hasPath, hp]
  | loaded hmem _ _ _ hreports hrequests hstore =>
    refine ⟨[name], [], by rw [hstore, Store.names_insert_of_not_mem hmem], hreports, ?_⟩
    rw [hlength 1 (by rw [hrequests, List.length_cons, Nat.add_comm])]
    rfl

namespace Asks

variable {asks : List (String × Path)}

/-- A walk to its end makes some requests. -/
theorem exists_finish (he : w.Ends l o entry) :
    ∃ asks, Asks l o entry w asks (w.finish l o entry he) := by
  fun_induction Walk.finish l o entry w he with
  | case1 w he hs => exact ⟨[], .refl⟩
  | case2 w he w' hs ih =>
    obtain ⟨name, hstep⟩ := step?_eq_some_iff.1 hs
    obtain ⟨asks, hasks⟩ := ih
    have hr : ∃ paths : List Path,
        w'.resolver.requests = paths.reverse ++ w.resolver.requests := by
      cases hstep.outcome with
      | known _ _ hrequests _ => exact ⟨[], hrequests⟩
      | stored _ _ _ _ hrequests _ => exact ⟨[], hrequests⟩
      | pathless _ _ _ hrequests _ => exact ⟨[], hrequests⟩
      | @refused path _ _ _ _ _ _ hrequests _ => exact ⟨[path], hrequests⟩
      | @loaded path _ _ _ _ _ _ hrequests _ => exact ⟨[path], hrequests⟩
    obtain ⟨paths, hpaths⟩ := hr
    exact ⟨_, .step hstep hpaths hasks⟩

/-- The requests of a walk stand before the ones made earlier, latest first. -/
theorem requests_eq (h : Asks l o entry w asks w') :
    w'.resolver.requests = (asks.map Prod.snd).reverse ++ w.resolver.requests := by
  induction h with
  | refl => rfl
  | step hs hr h ih =>
    rw [ih, hr]
    simp [Function.comp_def]

/-- **Each request is for the path of a name that is not stored.** -/
theorem unstored (h : Asks l o entry w asks w') :
    ∀ a ∈ asks, a.1 ∉ w.resolver.store.names ∧ Module.path? a.1 = some a.2 := by
  induction h with
  | refl => simp
  | step hs hr h ih =>
    intro a ha
    rcases List.mem_append.1 ha with ha | ha
    · obtain ⟨p, hp, rfl⟩ := List.mem_map.1 ha
      rcases hs.paths_eq hr with rfl | ⟨path, rfl, hmem, hpath, -⟩
      · cases hp
      · obtain rfl := List.mem_singleton.1 hp
        exact ⟨hmem, hpath⟩
    · obtain ⟨hmem, hpath⟩ := ih a ha
      exact ⟨fun hn => hmem (hs.names_subset hn), hpath⟩

/-- **The names asked for are those stored and those reported that have a path**, each as
often as it was stored or reported. -/
theorem perm (h : Asks l o entry w asks w') :
    ∃ added reports, w'.resolver.store.names = w.resolver.store.names ++ added ∧
      w'.unresolved = reports ++ w.unresolved ∧
      (asks.map Prod.fst).Perm (added ++ (reports.map Unresolved.name).filter hasPath) := by
  induction h with
  | refl => exact ⟨[], [], by simp⟩
  | @step _ _ _ name paths asks hs hr h ih =>
    obtain ⟨first, report, hfirst, hreport, hpaths⟩ := hs.names_paths hr
    obtain ⟨added, reports, hadded, hreports, hperm⟩ := ih
    refine ⟨first ++ added, reports ++ report, ?_, ?_, ?_⟩
    · rw [hadded, hfirst, List.append_assoc]
    · rw [hreports, hreport, List.append_assoc]
    · have hnames : (paths.map (name, ·)).map Prod.fst = paths.map fun _ => name := by
        rw [List.map_map]
        rfl
      rw [List.map_append, hnames, hpaths, List.map_append, List.filter_append]
      refine List.perm_iff_count.2 fun n => ?_
      have hcount := hperm.count_eq n
      simp only [List.count_append] at hcount ⊢
      omega

/-- **A name that the loader gave a text for is not asked for again.** -/
theorem once (h : Asks l o entry w asks w') {before later : List (String × Path)}
    {n : String} {p : Path} {source : List Char} (heq : asks = before ++ (n, p) :: later)
    (hl : l.load ((before.map Prod.snd).reverse ++ w.resolver.requests) p = .ok source) :
    n ∉ later.map Prod.fst := by
  induction h generalizing before with
  | refl => simp at heq
  | @step w _ _ name paths asks hs hr h ih =>
    rcases hs.paths_eq hr with rfl | ⟨path, rfl, -, -, hstored⟩
    · exact ih heq (by rwa [hr])
    · cases before with
      | nil =>
        -- the first request, so all others were made when its name was stored
        obtain ⟨⟨rfl, rfl⟩, rfl⟩ : (name = n ∧ path = p) ∧ asks = later := by
          simpa using heq
        rintro hmem
        obtain ⟨a, ha, rfl⟩ := List.mem_map.1 hmem
        exact (h.unstored a ha).1 (hstored source hl)
      | cons a before =>
        obtain ⟨rfl, rfl⟩ : (name, path) = a ∧ asks = before ++ (n, p) :: later := by
          simpa using heq
        refine ih rfl ?_
        rw [hr]
        simpa using hl

end Asks

end Walk

variable {l : Loader} {o : Options} {entry : String} {r : Resolver}

/-- **Bundling adds to the store the modules of the bundle** that it lacks, and nothing
else. -/
theorem extends_ofEntry {h : Ends l o entry r} {b : Bundle} {r' : Resolver}
    (hb : ofEntry l o entry r h = (.ok b, r')) : r.store.Extends b.modules r'.store := by
  obtain ⟨raw, hl, rfl, rfl⟩ := exists_of_ofEntry_eq_ok hb
  refine Walk.extends_finish (h raw hl) ?_
  have hstore : (start o entry (o.prelude.apply entry raw) (r.ask l ⟨entry⟩).2).resolver.store =
      r.store := Resolver.foldl_note_store _ _
  rw [hstore]
  exact .refl r.store

/-- If there is no bundle, the entry was the only request, and nothing was stored. -/
theorem of_ofEntry_eq_error {h : Ends l o entry r} {e : EntryError} {r' : Resolver}
    (he : ofEntry l o entry r h = (.error e, r')) :
    r'.requests = ⟨entry⟩ :: r.requests ∧ r'.store = r.store := by
  cases hl : l.load r.requests ⟨entry⟩ with
  | ok raw =>
    rw [ofEntry_of_ok h hl] at he
    cases he
  | error error =>
    rw [ofEntry_of_error h hl] at he
    cases he
    exact ⟨rfl, rfl⟩

/-- Whatever is asked for is the entry or the path of a module. -/
theorem mem_requests_ofEntry (h : Ends l o entry r) {path : Path}
    (hp : path ∈ (ofEntry l o entry r h).2.requests) :
    path ∈ ⟨entry⟩ :: r.requests ∨ ∃ name, Module.path? name = some path := by
  cases hl : l.load r.requests ⟨entry⟩ with
  | error error =>
    rw [ofEntry_of_error h hl] at hp
    exact .inl hp
  | ok raw =>
    rw [ofEntry_of_ok h hl] at hp
    obtain ⟨asks, hasks⟩ := Walk.Asks.exists_finish (h raw hl)
    rw [hasks.requests_eq, start, Resolver.foldl_note_requests] at hp
    rcases List.mem_append.1 hp with hp | hp
    · obtain ⟨a, ha, rfl⟩ := List.mem_map.1 (List.mem_reverse.1 hp)
      exact .inr ⟨a.1, (hasks.unstored a ha).2⟩
    · exact .inl hp

/-- **What bundling asks of the loader.**  The loader may change its answers as it likes.

If there is a bundle, the entry is asked for first and then, for each of `asks`, the path of
a name, in the order in which the walk looked at the names.  There are as many requests as
the entry, the modules that the store has gained and the reports of names that have a path.
No request is for a name that was stored before, and none for a name that the loader has
given a text for since.  If there is no bundle, the entry was the only request and the store
is as it was. -/
theorem requests_ofEntry (h : Ends l o entry r) :
    (∀ b r', ofEntry l o entry r h = (.ok b, r') →
      ∃ raw w asks, l.load r.requests ⟨entry⟩ = .ok raw ∧
        Walk.Asks l o entry (start o entry (o.prelude.apply entry raw) (r.ask l ⟨entry⟩).2)
          asks w ∧
        w.pending = [] ∧ w.resolver = r' ∧ b = ofWalk (o.prelude.apply entry raw) w ∧
        r'.requests.reverse = r.requests.reverse ++ ⟨entry⟩ :: asks.map Prod.snd ∧
        r.store.size ≤ r'.store.size ∧
        r'.requests.length = r.requests.length + (1 + (r'.store.size - r.store.size) +
          (b.unresolved.filter fun u => hasPath u.name).length) ∧
        (∀ a ∈ asks, a.1 ∉ r.store.names ∧ Module.path? a.1 = some a.2) ∧
        ∀ before later n p source, asks = before ++ (n, p) :: later →
          l.load ((before.map Prod.snd).reverse ++ ⟨entry⟩ :: r.requests) p = .ok source →
            n ∉ later.map Prod.fst) ∧
    ∀ e r', ofEntry l o entry r h = (.error e, r') →
      r'.requests = ⟨entry⟩ :: r.requests ∧ r'.store = r.store := by
  refine ⟨fun b r' hb => ?_, fun e r' he => of_ofEntry_eq_error he⟩
  obtain ⟨raw, hl, rfl, rfl⟩ := exists_of_ofEntry_eq_ok hb
  set first := start o entry (o.prelude.apply entry raw) (r.ask l ⟨entry⟩).2
  have hstore : first.resolver.store = r.store := Resolver.foldl_note_store _ _
  have hrequests : first.resolver.requests = ⟨entry⟩ :: r.requests :=
    Resolver.foldl_note_requests _ _
  obtain ⟨asks, hasks⟩ := Walk.Asks.exists_finish (h raw hl)
  have hall := hasks.requests_eq
  obtain ⟨added, reports, hadded, hreports, hperm⟩ := hasks.perm
  have hunstored := hasks.unstored
  rw [hrequests] at hall
  rw [hstore] at hadded hunstored
  -- at first there are no reports
  have hnone : first.unresolved = [] := rfl
  rw [hnone, List.append_nil] at hreports
  set last := first.finish l o entry (h raw hl)
  have hsize : last.resolver.store.size = r.store.size + added.length := by
    simpa [Store.names, Store.size] using congrArg List.length hadded
  refine ⟨raw, last, asks, hl, hasks, Walk.pending_finish _, rfl, rfl, ?_, by omega, ?_,
    hunstored, ?_⟩
  · rw [hall]
    simp
  · have hlength := hperm.length_eq
    have hfilter : ((reports.map Unresolved.name).filter hasPath).length =
        ((ofWalk (o.prelude.apply entry raw) last).unresolved.filter
          fun u => hasPath u.name).length := by
      rw [ofWalk, hreports, List.filter_reverse, List.length_reverse, List.filter_map,
        List.length_map]
      rfl
    rw [List.length_map, List.length_append, hfilter] at hlength
    rw [hall, hsize, List.length_append, List.length_reverse, List.length_map,
      List.length_cons]
    omega
  · intro before later n p source heq hload
    exact hasks.once heq (by rwa [hrequests])

/-- The loader refuses `x` at first and gives it when asked again, and the entry names it
three times: the loader is asked for the entry, for `gone` and twice for `x`, but not for
the name without a path. -/
theorem requests_length_of_late_module :
    let text := "require 'x' require '.y' require 'x' require 'x' require 'gone'".toList
    let l : Loader := ⟨fun earlier path =>
      if path = ⟨"main.lua"⟩ then .ok text
      else if path = ⟨"x.lua"⟩ ∧ path ∈ earlier then .ok []
      else .error (.missing path)⟩
    let r : Resolver := { store := .empty }
    ∃ h b r', ofEntry l {} "main.lua" r h = (.ok b, r') ∧
      b.unresolved.map Unresolved.name = ["gone", "x", ".y"] ∧ r'.store.names = ["x"] ∧
      r'.requests.length = 1 + 1 + 2 := by
  intro text l r
  have hfinite : l.Finite := by
    refine ⟨[text, []], fun earlier path source hload => ?_⟩
    simp only [l] at hload
    split at hload
    · cases hload
      simp
    split at hload
    · cases hload
      simp
    · cases hload
  have h : Ends l {} "main.lua" r := ends_of_finite {} "main.lua" hfinite r
  have hl : l.load r.requests ⟨"main.lua"⟩ = .ok text := rfl
  have hb := ofEntry_eq_after h hl 5 (by decide +kernel)
  obtain ⟨raw, -, asks, -, -, -, -, -, -, -, htotal, -⟩ := (requests_ofEntry h).1 _ _ hb
  refine ⟨h, _, _, hb, by decide +kernel, by decide +kernel, htotal.trans ?_⟩
  decide +kernel

end Bundle
end LuaBundler
