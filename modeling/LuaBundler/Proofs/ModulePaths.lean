/-
# Names, paths and the directory of the modules

The components of the path of a module are the pieces of its name, the last with the extension
behind it (`Module.components_of_path?`).  They are names that lead downwards, so the path stays
below any directory it is seen from (`Module.components_join_of_path?`), and names with the same
pieces are those with the same path (`Module.path?_eq_some_iff_of_path?`).

Whatever modules are resolved and entries bundled, and with whatever stores, nothing is asked
for but those entries and paths of modules (`Resolver.Calls.asks`).  A module is the extension
point exactly if its name has the pieces of the configured one (`Bundle.Options.reaches_iff`).
-/

import LuaBundler.Proofs.Requests
import LuaBundler.Proofs.Scripts

namespace LuaBundler

/-! ## Names and paths -/

namespace Module

variable {name name' : String} {p : Path}

theorem exists_path?_iff :
    (∃ p, path? name = some p) ↔ '\\' ∉ name.toList ∧ ∀ piece ∈ namePieces name, piece ≠ [] := by
  have hne : (∀ piece ∈ namePieces name, piece ≠ []) ↔ [] ∉ namePieces name :=
    ⟨fun h hmem => h [] hmem rfl, fun h piece hmem he => h (he ▸ hmem)⟩
  unfold path?
  rw [hne]
  split
  · next h => simpa [← not_or] using h
  · next h => simpa [not_or] using h

theorem text_of_path? (h : path? name = some p) :
    p.text.toList = ['/'].intercalate (namePieces name) ++ ".lua".toList := by
  rw [(path?_eq_some_iff.1 h).2.2, namePieces_eq, List.intercalate_splitOn]

/-- The pieces of a name that has a path can stand for what lies in a directory. -/
theorem isName_of_mem_namePieces (h : path? name = some p) {piece : List Char}
    (hpiece : piece ∈ namePieces name) : Location.IsName (String.ofList piece) := by
  have hplain : ∀ c, isSeparator c = true → c ∉ piece := fun c hc hmem => by
    rw [isSeparator_of_mem_namePieces hpiece c hmem] at hc
    cases hc
  have hdot : '.' ∉ piece := hplain '.' rfl
  refine ⟨⟨fun he => ?_, fun he => ?_, fun he => ?_⟩, ?_⟩
  · exact (exists_path?_iff.1 ⟨p, h⟩).2 piece hpiece (by simpa using congrArg String.toList he)
  · exact hdot (by simp [show piece = ['.'] by simpa using congrArg String.toList he])
  · exact hdot (by simp [show piece = ['.', '.'] by simpa using congrArg String.toList he])
  · simpa using hplain '/' rfl

/-- The names that lead to a module with the given pieces in its name. -/
def fileNames (pieces : List (List Char)) : List String :=
  pieces.dropLast.map String.ofList ++
    (pieces.getLast?.map fun last => String.ofList last ++ ".lua").toList

/-- The path of a module is made of the names that lead to it. -/
theorem eq_ofNames_of_path? (h : path? name = some p) :
    p = .ofNames (fileNames (namePieces name)) := by
  obtain ⟨init, last, hname, -⟩ := pieces_of_path? h
  refine congrArg Path.mk (String.toList_injective ?_)
  rw [text_of_path? h, String.toList_intercalate, hname, intercalate_concat_append]
  simp [fileNames, Function.comp_def]

theorem isName_of_mem_fileNames (h : path? name = some p) :
    ∀ n ∈ fileNames (namePieces name), Location.IsName n := by
  obtain ⟨init, last, hname, -⟩ := pieces_of_path? h
  have hpiece : ∀ piece ∈ init ++ [last], Location.IsName (String.ofList piece) :=
    fun piece hmem => isName_of_mem_namePieces h (hname ▸ hmem)
  have hlong : 4 ≤ (String.ofList last ++ ".lua").toList.length := by simp
  rw [List.forall_mem_append, List.forall_mem_singleton] at hpiece
  rw [hname]
  simp only [fileNames, List.dropLast_concat, List.getLast?_concat, Option.map_some,
    Option.toList_some, List.forall_mem_append, List.forall_mem_map, List.forall_mem_singleton]
  refine ⟨hpiece.1, ⟨?_, ?_, ?_⟩, ?_⟩
  · exact fun he => by simp [he] at hlong
  · exact fun he => by simp [he] at hlong
  · exact fun he => by simp [he] at hlong
  · rw [String.toList_append, List.mem_append, not_or]
    exact ⟨hpiece.2.2, by decide⟩

/-- **The components of the path of a module are the pieces of its name**, the last with the
extension behind it. -/
theorem components_of_path? (h : path? name = some p) :
    p.components = (fileNames (namePieces name)).map .normal := by
  rw [eq_ofNames_of_path? h, Path.components_ofNames (isName_of_mem_fileNames h)]

/-- **The path of a module stays below any path that it is seen from.** -/
theorem components_join_of_path? (h : path? name = some p) (root : Path) :
    (root.join p).components = root.components ++ p.components := by
  rw [components_of_path? h, eq_ofNames_of_path? h,
    Path.components_join_ofNames root (isName_of_mem_fileNames h)]

theorem namePieces_eq_iff :
    namePieces name' = namePieces name ↔ name'.toList.map slashed = name.toList.map slashed := by
  rw [namePieces_eq, namePieces_eq]
  refine ⟨fun h => ?_, fun h => by rw [h]⟩
  rw [← @List.intercalate_splitOn _ (name'.toList.map slashed) _ _ '/', h,
    List.intercalate_splitOn]

theorem backslash_mem_map_slashed_iff {cs : List Char} :
    '\\' ∈ cs.map slashed ↔ '\\' ∈ cs := by
  have hback : ∀ c, slashed c = '\\' ↔ c = '\\' := by
    intro c
    unfold slashed
    split
    · next hc => exact ⟨by simp, fun he => by simp [he, isSeparator] at hc⟩
    · exact Iff.rfl
  simp [List.mem_map, hback]

/-- **Names have the same path exactly if they have the same pieces.** -/
theorem path?_eq_some_iff_of_path? (h : path? name = some p) :
    path? name' = some p ↔ namePieces name' = namePieces name := by
  obtain ⟨hback, hnil, htext⟩ := path?_eq_some_iff.1 h
  rw [path?_eq_some_iff, htext, List.append_left_inj]
  constructor
  · rintro ⟨-, -, he⟩
    exact namePieces_eq_iff.2 he.symm
  · intro he
    have hslashed := namePieces_eq_iff.1 he
    refine ⟨?_, he ▸ hnil, hslashed.symm⟩
    rwa [← backslash_mem_map_slashed_iff, hslashed, backslash_mem_map_slashed_iff]

end Module

/-! ## Requests -/

namespace Resolver

variable {l : Loader} {o : Bundle.Options} {entry name : String} {r r' r'' : Resolver}
  {entries entries' : List String} {w w' : Bundle.Walk}

/-- From `r` to `r'` the loader was asked for the entries, once each, and beyond that for paths
of modules only. -/
def AsksFor (r : Resolver) (entries : List String) (r' : Resolver) : Prop :=
  ∃ paths, r'.requests.Perm (entries.map Path.mk ++ (paths ++ r.requests)) ∧
    ∀ p ∈ paths, ∃ name, Module.path? name = some p

namespace AsksFor

theorem of_requests_eq (h : r'.requests = r.requests) : r.AsksFor [] r' :=
  ⟨[], by simp [h], by simp⟩

theorem of_requests_eq_cons {p : Path} (hp : Module.path? name = some p)
    (h : r'.requests = p :: r.requests) : r.AsksFor [] r' :=
  ⟨[p], by simp [h], by simpa using ⟨name, hp⟩⟩

theorem of_entry (h : r'.requests = ⟨entry⟩ :: r.requests) : r.AsksFor [entry] r' :=
  ⟨[], by simp [h], by simp⟩

theorem trans (h : r.AsksFor entries r') (h' : r'.AsksFor entries' r'') :
    r.AsksFor (entries ++ entries') r'' := by
  obtain ⟨paths, hperm, hpaths⟩ := h
  obtain ⟨paths', hperm', hpaths'⟩ := h'
  refine ⟨paths' ++ paths, hperm'.trans (List.perm_iff_count.2 fun p => ?_), ?_⟩
  · have hcount := hperm.count_eq p
    simp only [List.map_append, List.count_append] at hcount ⊢
    omega
  · exact List.forall_mem_append.2 ⟨hpaths', hpaths⟩

/-- Resolving a name asks for its path, if it asks at all. -/
theorem resolve (l : Loader) (name : String) (r : Resolver) :
    r.AsksFor [] (r.resolve l name).2 := by
  have hres := Resolver.resolution l name r
  generalize r.resolve l name = answer at hres
  obtain ⟨m?, r'⟩ := answer
  cases hres with
  | stored hs => exact of_requests_eq rfl
  | pathless hs hp => exact of_requests_eq rfl
  | refused hs hp hl => exact of_requests_eq_cons hp rfl
  | loaded hs hp hl => exact of_requests_eq_cons hp rfl

/-- So does a step of a walk. -/
theorem step (hs : Bundle.Walk.Step l o entry w name w') :
    w.resolver.AsksFor [] w'.resolver := by
  cases hs.outcome with
  | known _ _ hrequests _ => exact of_requests_eq hrequests
  | stored _ _ _ _ hrequests _ => exact of_requests_eq hrequests
  | pathless _ _ _ hrequests _ => exact of_requests_eq hrequests
  | refused _ hp _ _ _ hrequests _ => exact of_requests_eq_cons hp hrequests
  | loaded _ hp _ _ _ hrequests _ => exact of_requests_eq_cons hp hrequests

theorem after (l : Loader) (o : Bundle.Options) (entry : String) (n : ℕ) (w : Bundle.Walk) :
    w.resolver.AsksFor [] (w.after l o entry n).resolver := by
  induction n generalizing w with
  | zero => exact of_requests_eq rfl
  | succ n ih =>
    unfold Bundle.Walk.after
    split
    · exact of_requests_eq rfl
    · next w' hs =>
      obtain ⟨name, hstep⟩ := Bundle.Walk.step?_eq_some_iff.1 hs
      exact (step hstep).trans (ih w')

theorem finish (h : w.Ends l o entry) :
    w.resolver.AsksFor [] (w.finish l o entry h).resolver :=
  Bundle.Walk.finish_induction (P := fun w' => w.resolver.AsksFor [] w'.resolver) h
    (of_requests_eq rfl) fun _ _ _ hw hs => hw.trans (step hs)

theorem start (l : Loader) (o : Bundle.Options) (entry : String) (contents : List Char)
    (r : Resolver) :
    r.AsksFor [entry] (Bundle.start o entry contents (r.ask l ⟨entry⟩).2).resolver :=
  of_entry (foldl_note_requests _ _)

/-- **Bundling asks for the entry, and beyond that for paths of modules.** -/
theorem ofEntry (he : Bundle.Ends l o entry r) :
    r.AsksFor [entry] (Bundle.ofEntry l o entry r he).2 := by
  cases hl : l.load r.requests ⟨entry⟩ with
  | error error =>
    rw [Bundle.ofEntry_of_error he hl]
    exact of_entry rfl
  | ok raw =>
    rw [Bundle.ofEntry_of_ok he hl]
    exact (start l o entry _ r).trans (finish (he raw hl))

end AsksFor

/-- What can come of `r` when modules are resolved and `entries` are bundled with the loader,
in any order and with any options.  Between two calls the store may become any other, and the
last call need not have come to its end. -/
inductive Calls (l : Loader) : Resolver → List String → Resolver → Prop
  /-- Nothing is called. -/
  | nil {r : Resolver} : Calls l r [] r
  /-- A name is resolved. -/
  | resolve {r r' : Resolver} {entries : List String} (name : String)
      (h : Calls l (r.resolve l name).2 entries r') : Calls l r entries r'
  /-- An entry is bundled. -/
  | bundle {r r' : Resolver} {entries : List String} {o : Bundle.Options} {entry : String}
      (he : Bundle.Ends l o entry r) (h : Calls l (Bundle.ofEntry l o entry r he).2 entries r') :
      Calls l r (entry :: entries) r'
  /-- The walk for an entry has made some steps. -/
  | walk {r : Resolver} (o : Bundle.Options) (entry : String) {raw : List Char}
      (hl : l.load r.requests ⟨entry⟩ = .ok raw) (n : ℕ) :
      Calls l r [entry]
        ((Bundle.start o entry (o.prelude.apply entry raw) (r.ask l ⟨entry⟩).2).after
          l o entry n).resolver
  /-- The store is another one. -/
  | store {r r' : Resolver} {entries : List String} (s : Store)
      (h : Calls l { r with store := s } entries r') : Calls l r entries r'

/-- **Whatever is called, the loader is asked for entries and for paths of modules.** -/
theorem Calls.asksFor (h : Calls l r entries r') : r.AsksFor entries r' := by
  induction h with
  | nil => exact .of_requests_eq rfl
  | @resolve r _ _ name _ ih => exact (AsksFor.resolve l name r).trans ih
  | bundle he _ ih => exact (AsksFor.ofEntry he).trans ih
  | @walk r o entry raw hl n => exact (AsksFor.start l o entry _ r).trans (.after l o entry n _)
  | @store r _ _ s _ ih => exact (AsksFor.of_requests_eq rfl : r.AsksFor [] _).trans ih

end Resolver

/-! ## The extension point -/

namespace Bundle

variable {l : Loader} {o : Options} {name point : String} {w : Walk} {rest : List String}
  {m : Module} {r : Resolver} {p : Path}

/-- **A module is the extension point exactly if its name has the same pieces**, and a path. -/
theorem Options.reaches_iff (hpoint : o.extensionPoint = some point)
    (hp : Module.path? point = some p) :
    o.reaches name = true ↔
      (∃ q, Module.path? name = some q) ∧ Module.namePieces name = Module.namePieces point := by
  have hpath : o.extensionPath? = some p := by
    rw [Options.extensionPath?, hpoint]
    exact hp
  rw [← Module.path?_eq_some_iff_of_path? hp, Options.reaches, hpath, Option.isSome_some,
    Bool.true_and, beq_iff_eq]
  exact ⟨fun h => ⟨⟨p, h⟩, h⟩, And.right⟩

/-- A step at a name that resolves to a module puts what the module requires on the stack.  At
the extension point the extra modules follow, and this is reported. -/
theorem Walk.step?_of_resolve (o : Options) (entry : String)
    (hpending : w.pending = name :: rest) (hv : name ∉ w.visited)
    (hr : (w.resolver.note (.visiting name)).resolve l name = (some m, r)) :
    ∃ w', w.step? l o entry = some w' ∧
      (o.reaches name = true → w'.pending = (m.dependencies ++ o.extras).reverse ++ rest ∧
        w'.resolver.log = .extensionPointReached name o.extras.length :: r.log) ∧
      (o.reaches name = false → w'.pending = m.dependencies.reverse ++ rest ∧
        w'.resolver.log = r.log) := by
  refine ⟨_, step?_eq_some_iff.2 ⟨name, .found hpending hv hr⟩, fun h => ?_, fun h => ?_⟩
  · exact ⟨by simp [Options.extrasOf, h], by simp [Options.eventsAt, h, Resolver.note]⟩
  · exact ⟨by simp [Options.extrasOf, h], by simp [Options.eventsAt, h]⟩

/-- **Paths of modules are confined, and only separators tell names of one path apart.**  A name
has a path exactly if it has no backslash and no empty piece.  The path is made of the pieces,
stays below whatever it is seen from, and belongs to the names with the same pieces.  So all that
is asked of a loader, but for the entries, lies below its directory, and the extension point is
recognised by its pieces. -/
theorem module_paths_stay_below :
    (∀ name, (∃ p, Module.path? name = some p) ↔
      '\\' ∉ name.toList ∧ ∀ piece ∈ Module.namePieces name, piece ≠ []) ∧
    (∀ name p, Module.path? name = some p →
      p.text.toList = ['/'].intercalate (Module.namePieces name) ++ ".lua".toList ∧
      p.isAbsolute = false ∧
      p.components = (Module.fileNames (Module.namePieces name)).map .normal ∧
      (∀ n, .normal n ∈ p.components → Location.IsName n) ∧
      ∀ name', Module.path? name' = some p ↔
        Module.namePieces name' = Module.namePieces name) ∧
    (∀ l r entries r', Resolver.Calls l r entries r' → ∃ paths,
      r'.requests.Perm (entries.map Path.mk ++ (paths ++ r.requests)) ∧
      ∀ p ∈ paths, (∀ c ∈ p.components, ∃ n, c = .normal n ∧ Location.IsName n) ∧
        ∀ root : Path, (root.join p).components = root.components ++ p.components) ∧
    ∀ (l : Loader) (o : Options) (point entry : String), o.extensionPoint = some point →
      (∃ p, Module.path? point = some p) →
      ∀ (w : Walk) (name : String) (rest : List String) (m : Module) (r : Resolver),
      w.pending = name :: rest → name ∉ w.visited →
      (w.resolver.note (.visiting name)).resolve l name = (some m, r) →
      ∃ w', w.step? l o entry = some w' ∧
        ((∃ p, Module.path? name = some p) ∧
            Module.namePieces name = Module.namePieces point →
          w'.pending = (m.dependencies ++ o.extras).reverse ++ rest ∧
          w'.resolver.log = .extensionPointReached name o.extras.length :: r.log) ∧
        (¬ ((∃ p, Module.path? name = some p) ∧
            Module.namePieces name = Module.namePieces point) →
          w'.pending = m.dependencies.reverse ++ rest ∧ w'.resolver.log = r.log) := by
  have hnames : ∀ name p, Module.path? name = some p →
      ∀ c ∈ p.components, ∃ n, c = .normal n ∧ Location.IsName n := by
    intro name p h c hc
    rw [Module.components_of_path? h] at hc
    obtain ⟨n, hn, rfl⟩ := List.mem_map.1 hc
    exact ⟨n, rfl, Module.isName_of_mem_fileNames h n hn⟩
  refine ⟨fun name => Module.exists_path?_iff, fun name p h => ⟨Module.text_of_path? h,
    (Path.isInward_iff.1 (Module.isInward_of_path? h)).1, Module.components_of_path? h,
    fun n hn => ?_, fun name' => Module.path?_eq_some_iff_of_path? h⟩, ?_, ?_⟩
  · obtain ⟨n', he, hn'⟩ := hnames name p h _ hn
    cases he
    exact hn'
  · intro l r entries r' h
    obtain ⟨paths, hperm, hpaths⟩ := h.asksFor
    refine ⟨paths, hperm, fun p hp => ?_⟩
    obtain ⟨name, hname⟩ := hpaths p hp
    exact ⟨hnames name p hname, Module.components_join_of_path? hname⟩
  · rintro l o point entry hpoint ⟨p, hp⟩ w name rest m r hpending hv hr
    obtain ⟨w', hs, hreached, hpassed⟩ := Walk.step?_of_resolve o entry hpending hv hr
    rw [← Options.reaches_iff hpoint hp]
    exact ⟨w', hs, hreached, fun h => hpassed (Bool.eq_false_iff.2 h)⟩

/-- The module `a/b` is the extension point `a.b`, and pulls in the extra module.  After a name
was resolved and two entries were bundled, one of which lies elsewhere, the loader was asked for
the entries and for paths that stay below a directory written with two dots. -/
theorem module_paths_stay_below_of_alias :
    let l := Loader.ofFiles [(⟨"main.lua"⟩, "require 'a.b' require '../up'".toList),
      (⟨"a/b.lua"⟩, [])]
    let o : Options := { extensionPoint := some "a.b", extras := ["x"] }
    let w : Walk := { pending := ["a/b"], resolver := { store := .empty } }
    Module.namePieces "a/b" = Module.namePieces "a.b" ∧
      (∃ w', w.step? l o "main.lua" = some w' ∧ w'.pending = ["x"] ∧
        w'.resolver.log.head? = some (.extensionPointReached "a/b" 1)) ∧
      ∃ r', Resolver.Calls l { store := .empty } ["main.lua", "../other.lua"] r' ∧
        ∃ paths, r'.requests.Perm (⟨"main.lua"⟩ :: ⟨"../other.lua"⟩ :: paths) ∧
          ⟨"a/b.lua"⟩ ∈ paths ∧ ∀ p ∈ paths, .parent ∉ p.components ∧
            ((⟨"../src"⟩ : Path).join p).components =
              .parent :: .normal "src" :: p.components := by
  intro l o w
  have hpieces : Module.namePieces "a/b" = Module.namePieces "a.b" := by decide
  have hpath : ∀ name ∈ ["a.b", "a/b"], ∃ p, Module.path? name = some p := by
    simp only [module_paths_stay_below.1]
    decide
  obtain ⟨-, -, hconfined, hext⟩ := module_paths_stay_below
  obtain ⟨w', hs, hfired, -⟩ := hext l o "a.b" "main.lua" rfl (hpath _ (by simp)) w "a/b" []
    (.ofSource "a/b" []) _ rfl (by simp [w]) rfl
  obtain ⟨hpending, hlog⟩ := hfired ⟨hpath _ (by simp), hpieces⟩
  refine ⟨hpieces, ⟨w', hs, hpending.trans (by decide +kernel), by rw [hlog]; rfl⟩, ?_⟩
  let r₁ : Resolver := (Resolver.resolve l "a/b" { store := .empty }).2
  have hends : ∀ (entry : String) (r : Resolver), Ends l o entry r := fun entry r =>
    ends_of_finite o entry (Loader.finite_ofFiles _) r
  let r₂ : Resolver := (Bundle.ofEntry l o "main.lua" r₁ (hends _ _)).2
  let r₃ : Resolver := (Bundle.ofEntry l o "../other.lua" r₂ (hends _ _)).2
  have hcalls : Resolver.Calls l { store := .empty } ["main.lua", "../other.lua"] r₃ :=
    .resolve "a/b" (.bundle (hends _ _) (.bundle (hends _ _) .nil))
  have hrequests : r₃.requests =
      [⟨"../other.lua"⟩, ⟨"x.lua"⟩, ⟨"a/b.lua"⟩, ⟨"main.lua"⟩, ⟨"a/b.lua"⟩] := by
    have hl : l.load r₁.requests ⟨"main.lua"⟩ = .ok "require 'a.b' require '../up'".toList := rfl
    have hb := ofEntry_eq_after (hends "main.lua" r₁) hl 3 (by decide +kernel)
    have hmissing : l.load r₂.requests ⟨"../other.lua"⟩ = .error (.missing ⟨"../other.lua"⟩) := rfl
    have hr₂ : r₂ = _ := congrArg Prod.snd hb
    have hr₃ : r₃ = _ := congrArg Prod.snd (Bundle.ofEntry_of_error (hends _ r₂) hmissing)
    rw [hr₃, hr₂]
    decide +kernel
  obtain ⟨paths, hperm, hpaths⟩ := hconfined _ _ _ _ hcalls
  rw [List.append_nil] at hperm
  refine ⟨r₃, hcalls, paths, hperm, ?_, fun p hp => ?_⟩
  · have hmem : (⟨"a/b.lua"⟩ : Path) ∈ r₃.requests := by simp [hrequests]
    simpa using hperm.mem_iff.1 hmem
  · obtain ⟨hinward, hjoin⟩ := hpaths p hp
    exact ⟨fun hmem => by simpa using hinward _ hmem, hjoin ⟨"../src"⟩⟩

end Bundle
end LuaBundler
