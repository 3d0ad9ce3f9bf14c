/-
# Bundling does not depend on line ends

Of two loaders one gives the texts of the other with a carriage return before some of the
line feeds (`Loader.AddsReturns`).  A module made of either text is the same module
(`ofSource_withReturns`), so the two walks of an entry are one and the same
(`Walk.finish_of_addsReturns`).  Two bundles of the entry have the same blocks, and they
differ in the line ends of the entry's own text (`text_withReturns`).

When the layout is finished this difference stays one of line ends only, if no string of the
entry is cut off (`dropReturns_layout`).  A string that a backslash continues on the next
line is: behind a carriage return its second line is scanned as code, and what looks like a
comment in it is lost (`layout_cuts_string_at_return`).
-/

import LuaBundler.Proofs.Blocks
import LuaBundler.Proofs.LineEndScan

namespace LuaBundler

open Text (WithReturns)

/-- The second loader gives the texts of the first one, in which there is no carriage return,
with one put before some of the line feeds. -/
def Loader.AddsReturns (l l' : Loader) : Prop := ∀ earlier path,
  (∃ e, l.load earlier path = .error e ∧ l'.load earlier path = .error e) ∨
    ∃ s t, l.load earlier path = .ok s ∧ l'.load earlier path = .ok t ∧ WithReturns s t

/-- Files with a carriage return before each line feed. -/
def addReturns (files : List (Path × List Char)) : List (Path × List Char) :=
  files.map fun file => (file.1, Text.addReturns file.2)

theorem lookup_addReturns (files : List (Path × List Char)) (path : Path) :
    (addReturns files).lookup path = (files.lookup path).map Text.addReturns := by
  induction files with
  | nil => rfl
  | cons file files ih =>
    show ((file.1, Text.addReturns file.2) :: addReturns files).lookup path = _
    rw [List.lookup_cons, List.lookup_cons, ih]
    split <;> rfl

theorem Loader.addsReturns_ofFiles {files : List (Path × List Char)}
    (h : ∀ file ∈ files, '\r' ∉ file.2) :
    Loader.AddsReturns (.ofFiles files) (.ofFiles (addReturns files)) := by
  intro earlier path
  simp only [Loader.ofFiles, Loader.ofFun, lookup_addReturns]
  cases hp : files.lookup path with
  | none => exact .inl ⟨_, rfl, rfl⟩
  | some s =>
    obtain ⟨file, hfile, rfl⟩ := List.mem_map.1 (mem_of_lookup_eq_some hp)
    exact .inr ⟨_, _, rfl, rfl, Text.withReturns_addReturns (h file hfile)⟩

/-- **A module is the same** whatever the line ends of its text. -/
theorem Module.ofSource_withReturns {s t : List Char} (h : WithReturns s t) (name : String) :
    Module.ofSource name t = Module.ofSource name s := by
  rw [Module.ofSource, Module.ofSource, Lua.imports_withReturns h, Lua.register, Lua.register,
    h.lines_eq]

variable {l l' : Loader} {o : Options} {entry name : String} {r : Resolver}

theorem Resolver.resolve_of_addsReturns (h : l.AddsReturns l') (name : String) (r : Resolver) :
    r.resolve l' name = r.resolve l name := by
  unfold Resolver.resolve
  cases r.store.get? name with
  | some m => rfl
  | none =>
    cases Module.pathOrError name with
    | error e => rfl
    | ok path =>
      rcases h r.requests path with ⟨e, hl, hl'⟩ | ⟨s, t, hl, hl', hst⟩
      · simp only [ask, hl, hl']
      · simp only [ask, hl, hl', Module.ofSource_withReturns hst]

/-! ### Carriage returns in a bundle -/

/-- There is no carriage return in a registration if there is none in the body. -/
theorem Lua.not_mem_register {source : List Char} (h : '\r' ∉ source) (name : String) :
    '\r' ∉ register name source := by
  obtain ⟨x, hx, hhead⟩ := exists_registrationHead_eq name
  have hbody : ∀ a ∈ Text.lines source, '\r' ∉ indentLine a := by
    intro a ha
    have hline : '\r' ∉ a := fun hmem => h (Text.mem_of_mem_lines ha hmem)
    unfold indentLine
    split
    · decide
    · simpa using hline
  rw [register, hhead]
  simp only [List.mem_append, List.mem_flatMap, not_or, not_exists, not_and]
  exact ⟨⟨⟨fun hmem => (hx _ hmem).2 rfl, by decide⟩, hbody⟩, by decide⟩

/-- What an expanded prelude is made of. -/
theorem EntryPrelude.mem_expand {n s : List Char} {c : Char} (h : c ∈ expand n s) :
    c ∈ n ∨ c ∈ s := by
  fun_induction expand n s with
  | case1 => exact .inr h
  | case2 d s rest hfound ih =>
    have hs := Text.isPrefixOf?_eq_some_iff.1 hfound
    rcases List.mem_append.1 h with h | h
    · exact .inl h
    · refine (ih h).imp_right fun hrest => ?_
      rw [hs]
      exact List.mem_append_right _ hrest
  | case3 d s hfound ih =>
    rcases List.mem_cons.1 h with rfl | h
    · exact .inr List.mem_cons_self
    · exact (ih h).imp_right (List.mem_cons_of_mem _)

/-- A prelude is the same above either text. -/
theorem EntryPrelude.apply_withReturns {p : EntryPrelude} (hp : ∀ text ∈ p.text?, '\r' ∉ text)
    {s t : List Char} (h : WithReturns s t) (entry : String) :
    WithReturns (p.apply entry s) (p.apply entry t) := by
  unfold apply
  split
  · exact h
  · next text htext =>
    obtain ⟨cut, hcut, -⟩ := Text.exists_dropEndWhile_append (p := (· == '\n'))
      (expand (Lua.escape entry.toList) text)
    have habove : '\r' ∉ expand (Lua.escape entry.toList) text := fun hmem =>
      (mem_expand hmem).elim (fun h => (Lua.not_break_of_mem_escape h).2 rfl) (hp text htext)
    refine (Text.withReturns_self fun hmem => habove ?_).append (.keep (by decide) h)
    rw [hcut]
    exact List.mem_append_left _ hmem

namespace Bundle

namespace Walk

variable {w : Walk}

theorem step?_of_addsReturns (h : l.AddsReturns l') (w : Walk) :
    w.step? l' o entry = w.step? l o entry := by
  unfold step? visit
  simp only [Resolver.resolve_of_addsReturns h]

/-- **The walks of an entry are the same.** -/
theorem finish_of_addsReturns (hl : l.AddsReturns l') {v : Walk} (hv : v = w)
    (h : w.Ends l o entry) (h' : v.Ends l' o entry) :
    v.finish l' o entry h' = w.finish l o entry h := by
  subst hv
  fun_induction Walk.finish l o entry v h with
  | case1 v h hs => exact finish_of_none h' ((step?_of_addsReturns hl v).trans hs)
  | case2 v h v' hs ih =>
    rw [finish_of_some h' ((step?_of_addsReturns hl v).trans hs)]
    exact ih _

/-- A block is the registration of a stored module. -/
theorem Accounts.exists_of_mem_blocks {direct taken : List String}
    (h : Accounts o entry direct taken w) {block : List Char} (hblock : block ∈ w.blocks) :
    ∃ n m, w.resolver.store.get? n = some m ∧ m.wrapped = block := by
  have hmem : some block ∈ w.blocks.map some := List.mem_map_of_mem hblock
  rw [← h.blocks] at hmem
  obtain ⟨n, -, hn⟩ := List.mem_map.1 hmem
  obtain ⟨m, hm, hwrapped⟩ := Option.map_eq_some_iff.1 hn
  exact ⟨n, m, hm, hwrapped⟩

end Walk

/-- Both walks of an entry begin in the same way. -/
theorem start_withReturns {s t : List Char} (h : WithReturns s t) (r : Resolver) :
    start o entry t r = start o entry s r := by
  rw [start, start, Lua.imports_withReturns h]

/-- There is no carriage return in the blocks of a walk that began with an empty store, if
there is none in the texts of the loader. -/
theorem not_mem_block {raw : List Char} (hs : FilledBy l r.store)
    (hl : ∀ earlier path source, l.load earlier path = .ok source → '\r' ∉ source)
    (h : Ends l o entry r) (hraw : l.load r.requests ⟨entry⟩ = .ok raw) {block : List Char}
    (hblock : block ∈ ((start o entry (o.prelude.apply entry raw) (r.ask l ⟨entry⟩).2).finish
      l o entry (h raw hraw)).blocks) : '\r' ∉ block := by
  obtain ⟨taken, ha⟩ := Walk.accounts_finish (h raw hraw) (accounts_start _)
  obtain ⟨n, m, hm, rfl⟩ := ha.exists_of_mem_blocks hblock
  have hfilled := FilledBy.bundle h hs
  rw [ofEntry_of_ok h hraw] at hfilled
  exact hfilled.forall_stored (P := fun _ m => '\r' ∉ m.wrapped)
    (fun n path earlier source _ hload => Lua.not_mem_register (hl earlier path source hload) n)
    n m hm

/-- The same blocks stand before two texts. -/
theorem intercalate_withReturns {blocks : List (List Char)} {s t : List Char}
    (hblocks : ∀ block ∈ blocks, '\r' ∉ block) (h : WithReturns s t) :
    WithReturns (['\n', '\n'].intercalate (blocks ++ [s]))
      (['\n', '\n'].intercalate (blocks ++ [t])) := by
  rw [intercalate_concat, intercalate_concat]
  refine (Text.withReturns_self fun hmem => ?_).append h
  obtain ⟨block, hblock, hmem⟩ := List.mem_flatMap.1 hmem
  exact (List.mem_append.1 hmem).elim (hblocks block hblock) (by decide)

/-- **Line ends do not show in a bundle**, except in the text of the entry itself. -/
theorem text_withReturns (hl : l.AddsReturns l') (hp : ∀ text ∈ o.prelude.text?, '\r' ∉ text)
    (hs : FilledBy l r.store) (h : Ends l o entry r) (h' : Ends l' o entry r) :
    (ofEntry l' o entry r h').2 = (ofEntry l o entry r h).2 ∧
      ((∃ e, (ofEntry l o entry r h).1 = .error e ∧ (ofEntry l' o entry r h').1 = .error e) ∨
        ∃ b b', (ofEntry l o entry r h).1 = .ok b ∧ (ofEntry l' o entry r h').1 = .ok b' ∧
          b'.modules = b.modules ∧ b'.unresolved = b.unresolved ∧ WithReturns b.text b'.text) := by
  rcases hl r.requests ⟨entry⟩ with ⟨e, hload, hload'⟩ | ⟨raw, raw', hload, hload', hraw⟩
  · rw [ofEntry_of_error h hload, ofEntry_of_error h' hload']
    exact ⟨rfl, .inl ⟨_, rfl, rfl⟩⟩
  have hsource : ∀ earlier path source, l.load earlier path = .ok source → '\r' ∉ source := by
    intro earlier path source hsource
    rcases hl earlier path with ⟨e, he, -⟩ | ⟨s, t, hs, -, hst⟩
    · cases he.symm.trans hsource
    · cases hs.symm.trans hsource
      exact hst.not_mem
  have hcontents := EntryPrelude.apply_withReturns hp hraw entry
  have hstart : start o entry (o.prelude.apply entry raw') (r.ask l' ⟨entry⟩).2 =
      start o entry (o.prelude.apply entry raw) (r.ask l ⟨entry⟩).2 :=
    start_withReturns hcontents _
  have hfinish := Walk.finish_of_addsReturns hl hstart (h raw hload) (h' raw' hload')
  rw [ofEntry_of_ok h hload, ofEntry_of_ok h' hload']
  dsimp only
  rw [hfinish]
  refine ⟨rfl, .inr ⟨_, _, rfl, rfl, rfl, rfl, ?_⟩⟩
  exact intercalate_withReturns (fun block => not_mem_block hs hsource h hload) hcontents

/-- **Bundling does not depend on line ends**, if no string is cut off.  In the second tree of
files each line feed has a carriage return before it, and in the first there is none, nor in
the prelude.  With an empty store both fail with the same error, or both give a bundle, with
the same modules and the same unresolved imports; and both leave the same modules in the
store, with the same registrations.  If in the regions of the second bundle no string is cut
off at an escaped carriage return, its finished layout without the carriage returns is that of
the first. -/
theorem dropReturns_layout {files : List (Path × List Char)}
    (hfiles : ∀ file ∈ files, '\r' ∉ file.2) (hp : ∀ text ∈ o.prelude.text?, '\r' ∉ text)
    (hr : r.store = .empty) (h : Ends (.ofFiles files) o entry r)
    (h' : Ends (.ofFiles (addReturns files)) o entry r) :
    (ofEntry (.ofFiles (addReturns files)) o entry r h').2.store =
        (ofEntry (.ofFiles files) o entry r h).2.store ∧
      ((∃ e, (ofEntry (.ofFiles files) o entry r h).1 = .error e ∧
          (ofEntry (.ofFiles (addReturns files)) o entry r h').1 = .error e) ∨
        ∃ b b', (ofEntry (.ofFiles files) o entry r h).1 = .ok b ∧
          (ofEntry (.ofFiles (addReturns files)) o entry r h').1 = .ok b' ∧
          b'.modules = b.modules ∧ b'.unresolved = b.unresolved ∧
          (LayoutCutsNoString b'.text →
            Text.dropReturns (layout true b'.text) = layout true b.text)) := by
  have hl := Loader.addsReturns_ofFiles hfiles
  obtain ⟨hresolver, hresult⟩ := text_withReturns hl hp (hr ▸ .empty) h h'
  refine ⟨congrArg Resolver.store hresolver, hresult.imp_right ?_⟩
  rintro ⟨b, b', hb, hb', hmodules, hunresolved, htext⟩
  exact ⟨b, b', hb, hb', hmodules, hunresolved, fun hcut =>
    (layout_withReturns htext hcut).dropReturns_eq⟩

/-- Comments, a long string, a plugin and a string that is not closed stand in the entry, and
a module continues a string on the next line: the layouts differ in their line ends. -/
theorem dropReturns_layout_of_plugin :
    let text := "require'x'\n--[[\n]]y=[[\n--\n]]\nfunction plugindef()\n\"\nend\n".toList
    let source := "return'a\\\n-- b'".toList
    let files := [(⟨"main.lua"⟩, text), (⟨"x.lua"⟩, source)]
    let r : Resolver := { store := .empty }
    let block := Lua.register "x" source ++ ['\n', '\n']
    let text' := Text.addReturns text
    ∃ h h', (ofEntry (.ofFiles files) {} "main.lua" r h).1 = .ok ⟨block ++ text, ["x"], []⟩ ∧
      (ofEntry (.ofFiles (addReturns files)) {} "main.lua" r h').1 =
        .ok ⟨block ++ text', ["x"], []⟩ ∧
      LayoutCutsNoString (block ++ text') ∧
      Text.dropReturns (layout true (block ++ text')) = layout true (block ++ text) := by
  intro text source files r block text'
  have hends : ∀ files, Ends (.ofFiles files) {} "main.lua" r := fun files =>
    ends_of_finite {} "main.lua" (Loader.finite_ofFiles files) r
  have hb : (ofEntry (.ofFiles files) {} "main.lua" r (hends _)).1 =
      .ok ⟨block ++ text, ["x"], []⟩ :=
    ofEntry_fst_eq_after (hends files) rfl 1 (by decide +kernel)
  have hb' : (ofEntry (.ofFiles (addReturns files)) {} "main.lua" r (hends _)).1 =
      .ok ⟨block ++ text', ["x"], []⟩ :=
    ofEntry_fst_eq_after (hends (addReturns files)) rfl 1 (by decide +kernel)
  have hcut : LayoutCutsNoString (block ++ text') := by decide +kernel
  refine ⟨hends files, hends (addReturns files), hb, hb', hcut, ?_⟩
  obtain ⟨-, ⟨e, he, -⟩ | ⟨c, c', hc, hc', -, -, hlayout⟩⟩ :=
    dropReturns_layout (by decide +kernel) (by rintro _ ⟨⟩) rfl (hends files)
      (hends (addReturns files))
  · cases hb.symm.trans he
  · obtain rfl := Except.ok.inj (hb.symm.trans hc)
    obtain rfl := Except.ok.inj (hb'.symm.trans hc')
    exact hlayout hcut

/-- **A string that goes on behind a carriage return is cut off.**  The entry continues a
string on its second line, which looks like a comment.  With line feeds the string is left
as it is.  With carriage returns before them its second line is removed. -/
theorem layout_cuts_string_at_return :
    let text := "x = \"a\\\n-- b\"".toList
    let text' := "x = \"a\\\r\n-- b\"".toList
    let files := [(⟨"main.lua"⟩, text)]
    let r : Resolver := { store := .empty }
    addReturns files = [(⟨"main.lua"⟩, text')] ∧
    ∃ h h', (ofEntry (.ofFiles files) {} "main.lua" r h).1 = .ok ⟨text, [], []⟩ ∧
      (ofEntry (.ofFiles (addReturns files)) {} "main.lua" r h').1 = .ok ⟨text', [], []⟩ ∧
      layout true text = text ∧ layout true text' = "x = \"a\\\n".toList ∧
      Text.dropReturns (layout true text') ≠ layout true text := by
  intro text text' files r
  have hends : ∀ files, Ends (.ofFiles files) {} "main.lua" r := fun files =>
    ends_of_finite {} "main.lua" (Loader.finite_ofFiles files) r
  have hb : (ofEntry (.ofFiles files) {} "main.lua" r (hends _)).1 = .ok ⟨text, [], []⟩ :=
    ofEntry_fst_eq_after (hends files) rfl 0 (by decide +kernel)
  have hb' : (ofEntry (.ofFiles (addReturns files)) {} "main.lua" r (hends _)).1 =
      .ok ⟨text', [], []⟩ :=
    ofEntry_fst_eq_after (hends (addReturns files)) rfl 0 (by decide +kernel)
  exact ⟨by decide +kernel, hends files, hends (addReturns files), hb, hb', by decide +kernel,
    by decide +kernel, by decide +kernel⟩

end Bundle
end LuaBundler
