/-
# Registrations as Lua text

The scan of a registration reads its first line as code with the two keys for its only
strings (`segments_registrationHead_append`).  Then it reads the body, each line with its
margin, and the `end` behind it (`segments_register`).  No name and no body changes this, if
the strings and block comments of the body are closed.

So tidying a registration is the same as tidying the body before it is registered
(`tidy_register`).  Its strings are the two keys and the strings of the body, each indented:
they are what they were if and only if none of them goes over the end of a line
(`strings_register`).
-/

import LuaBundler.Proofs.Indentation
import LuaBundler.Proofs.Literal

namespace LuaBundler
namespace Lua

open Text

variable {q : Char} {p s : List Char} {seg : Segment}

/-- The literal by which a registration names its module. -/
def preloadKey (name : String) : List Char := '"' :: (escape name.toList ++ ['"'])

/-- **An escaped text between two quotes is one string to the scan**, whatever follows. -/
theorem quotes_escape (hq : q = '"' ∨ q = '\'') (s y : List Char) :
    Quotes q (escape s ++ [q]) y := by
  obtain ⟨hb, hn⟩ := ne_of_isQuote hq
  induction s with
  | nil => exact .close hb hn
  | cons c s ih =>
    rw [escape_cons, List.append_assoc]
    unfold escapeChar
    split
    · exact .escaped ih
    split
    · exact .escaped ih
    split
    · exact .escaped ih
    next hbreak _ hquote =>
    rw [not_or, not_or] at hquote
    refine .plain hquote.2.2 hbreak (fun hc => ?_) ih
    rcases hq with rfl | rfl
    · exact hquote.1 hc
    · exact hquote.2.1 hc

theorem segments_preloadKey_append (name : String) (y : List Char) :
    segments (preloadKey name ++ y) = .quoted (preloadKey name) :: segments y := by
  have hbegins : Begins '"' (escape name.toList ++ ['"'] ++ y) (.quoted (preloadKey name)) y :=
    .quoted (.inl rfl) (quotes_escape (.inl rfl) _ y).throughQuote_eq
  rw [preloadKey, List.cons_append, segments, hbegins.readSegment_eq]
  rfl

/-- A text in which nothing but code begins is read as code. -/
theorem segments_map_code_append (h : ∀ c ∈ p, c ≠ '-' ∧ ¬ (c = '"' ∨ c = '\'') ∧ c ≠ '[')
    (y : List Char) : segments (p ++ y) = p.map .code ++ segments y := by
  induction p with
  | nil => rfl
  | cons c p ih =>
    obtain ⟨⟨hdash, hquote, hopen⟩, hp⟩ := List.forall_mem_cons.1 h
    rw [List.map_cons, List.cons_append, List.cons_append, ← ih hp]
    exact (stands_code hdash hquote hopen (p ++ y)).segments_eq

/-- The segments of the first line of a registration, without its line feed. -/
def headSegments (name : String) : List Segment :=
  "package.preload".toList.map .code ++ .code '[' :: .quoted (preloadKey name) ::
    ("] = package.preload".toList.map .code ++ .code '[' :: .quoted (preloadKey name) ::
      "] or function()".toList.map .code)

/-- **The first line of a registration is code with two strings in it**, the keys. -/
theorem segments_registrationHead_append (name : String) (y : List Char) :
    segments (registrationHead name ++ y) = headSegments name ++ .code '\n' :: segments y := by
  -- the bracket of the slot opens no string, for a quote stands behind it
  have hslot : ∀ {p} (z : List Char),
      (∀ c ∈ p, c ≠ '-' ∧ ¬ (c = '"' ∨ c = '\'') ∧ c ≠ '[') →
      segments (p ++ '[' :: (preloadKey name ++ z)) =
        p.map .code ++ .code '[' :: .quoted (preloadKey name) :: segments z := fun z hp => by
    have hopen : segments ('[' :: (preloadKey name ++ z)) =
        .code '[' :: segments (preloadKey name ++ z) := by
      rw [segments]
      rfl
    rw [segments_map_code_append hp, hopen, segments_preloadKey_append]
  have htext : registrationHead name ++ y =
      "package.preload".toList ++ '[' :: (preloadKey name ++
        ("] = package.preload".toList ++ '[' :: (preloadKey name ++
          ("] or function()".toList ++ '\n' :: y)))) := by
    rw [registrationHead_eq, preloadKey]
    simp
  have hfirst : ∀ c ∈ "package.preload".toList, c ≠ '-' ∧ ¬ (c = '"' ∨ c = '\'') ∧ c ≠ '[' := by
    simp
  have hsecond : ∀ c ∈ "] = package.preload".toList,
      c ≠ '-' ∧ ¬ (c = '"' ∨ c = '\'') ∧ c ≠ '[' := by simp
  have hlast : ∀ c ∈ "] or function()".toList, c ≠ '-' ∧ ¬ (c = '"' ∨ c = '\'') ∧ c ≠ '[' := by
    simp
  unfold headSegments
  rw [htext, hslot _ hfirst, hslot _ hsecond, segments_map_code_append hlast, segments_break]
  simp only [List.append_assoc, List.cons_append]

/-- What is read from the first line of a registration. -/
theorem segments_registrationHead (name : String) :
    segments (registrationHead name) = headSegments name ++ [.code '\n'] := by
  have hhead := segments_registrationHead_append name []
  rwa [List.append_nil, segments] at hhead

theorem endsFresh_registrationHead (name : String) : EndsFresh (registrationHead name) :=
  .inr ⟨headSegments name, (segments_registrationHead name).symm⟩

/-- A registration is its first line, the indented body and an `end`. -/
theorem register_eq (name : String) (h : '\r' ∉ s) :
    register name s = registrationHead name ++ (indent true (endLine s) ++ "end".toList) := by
  rw [register, flatMap_indentLine_lines h, List.append_assoc]

/-- The scan begins afresh behind an indented body. -/
theorem endsFresh_body (hclosed : ∀ seg ∈ segments s, seg.isClosed = true) :
    EndsFresh (indent true (endLine s)) := by
  have hsegments := segments_indent true (isClosed_of_mem_endLine hclosed)
  rcases endsFresh_endLine hclosed with hnil | hbreak
  · exact .inl (by rw [hnil, indent_nil])
  · rw [EndsFresh, hsegments]
    exact .inr (break_suffix_indentSegments true hbreak)

/-- **A registration is read line by line**: its first line, then the body, indented, and the
`end`. -/
theorem segments_register (name : String) (hreturn : '\r' ∉ s)
    (hclosed : ∀ seg ∈ segments s, seg.isClosed = true) :
    segments (register name s) = headSegments name ++ .code '\n' ::
      (indentSegments true (segments (endLine s)) ++ "end".toList.map .code) := by
  have hend : segments "end".toList = "end".toList.map .code := by decide +kernel
  rw [register_eq name hreturn, segments_registrationHead_append,
    (endsFresh_body hclosed).segments_append, hend,
    segments_indent true (isClosed_of_mem_endLine hclosed)]

/-- The first line of a registration has no comment, and is one line. -/
theorem forall_mem_headSegments (name : String) :
    ∀ seg ∈ headSegments name, seg ≠ .code '\n' ∧ seg.isComment = false := by
  unfold headSegments
  simp only [List.forall_mem_append, List.forall_mem_cons, List.forall_mem_map]
  refine ⟨?_, ⟨by decide, rfl⟩, ⟨nofun, rfl⟩, ?_, ⟨by decide, rfl⟩, ⟨nofun, rfl⟩, ?_⟩ <;>
    simp [Segment.isComment]

/-- Segments without comments that are on one line write it. -/
theorem codeLines_of_one_line {ss : List Segment}
    (h : ∀ seg ∈ ss, seg ≠ .code '\n' ∧ seg.isComment = false) : codeLines ss = [written ss] := by
  induction ss with
  | nil => rfl
  | cons seg ss ih =>
    obtain ⟨⟨hbreak, hcomment⟩, hss⟩ := List.forall_mem_cons.1 h
    have hkept : seg.kept = seg.text := by
      rw [Segment.kept, hcomment]
      rfl
    rw [codeLines, if_neg hbreak, ih hss, hkept]
    rfl

theorem EndsBare.append_left {t : List Char} (h : EndsBare t) (s : List Char) :
    EndsBare (s ++ t) := by
  obtain ⟨u, c, rfl, hc⟩ := h
  exact ⟨s ++ u, c, (List.append_assoc s u [c]).symm, hc⟩

theorem EndsBare.tidyLine_eq (h : EndsBare s) : tidyLine s = s ++ ['\n'] := by
  rw [tidyLine, h.trimEnd_eq]
  obtain ⟨u, c, rfl, -⟩ := h
  cases u <;> rfl

/-- Tidying leaves the first line of a registration alone. -/
theorem tidy_registrationHead (name : String) :
    tidy (registrationHead name) = registrationHead name := by
  have hwritten : written (headSegments name) ++ ['\n'] = registrationHead name := by
    have h := written_segments (registrationHead name)
    rwa [segments_registrationHead, written, List.flatMap_append] at h
  have hbare : EndsBare (written (headSegments name)) := by
    have hparen : EndsBare (written ("] or function()".toList.map .code)) :=
      ⟨"] or function(".toList, ')', by decide, by decide⟩
    unfold headSegments
    rw [written_map_code_append, written_cons, written_cons, written_map_code_append, written_cons,
      written_cons]
    iterate 6 refine EndsBare.append_left ?_ _
    exact hparen
  have hline := hbare.tidyLine_eq
  rw [(endsFresh_registrationHead name).tidy_eq, segments_registrationHead, codeLines_append_break,
    codeLines_of_one_line (forall_mem_headSegments name), List.flatMap_append,
    List.flatMap_singleton, hline, hwritten]
  exact List.append_nil _

/-- **A registration is tidied by tidying its body**, if the strings and block comments of the
body are closed. -/
theorem tidy_register (name : String) {source : List Char} (hreturn : '\r' ∉ source)
    (hclosed : ∀ seg ∈ segments source, seg.isClosed = true) :
    tidy (register name source) = register name (tidy source) := by
  have hreturn' : '\r' ∉ tidy source := fun hmem => hreturn (mem_of_mem_tidy hclosed hmem)
  have hend : tidy "end".toList = "end".toList := by decide +kernel
  rw [register_eq name hreturn, register_eq name hreturn',
    (endsFresh_registrationHead name).tidy_append, (endsFresh_body hclosed).tidy_append,
    tidy_registrationHead, tidy_indent (isClosed_of_mem_endLine hclosed), tidy_endLine hclosed,
    hend]

/-- A registration is tidied by tidying its body, with comments and blank lines in it and a
string over several lines. -/
theorem tidy_register_of_commented_body :
    let source := "--[[ a\n\n]] x = [[\n  --\n\n]]  \n--b\n\t\nreturn 'c\\\n'--".toList
    '\r' ∉ source ∧ (∀ seg ∈ segments source, seg.isClosed = true) ∧
      tidy (register "a\"--" source) = register "a\"--" (tidy source) ∧
      tidy source = " x = [[\n  --\n\n]]\nreturn 'c\\\n'".toList := by
  intro source
  have hreturn : '\r' ∉ source := by decide
  have hclosed : ∀ seg ∈ segments source, seg.isClosed = true := by decide +kernel
  exact ⟨hreturn, hclosed, tidy_register "a\"--" hreturn hclosed, by decide +kernel⟩

/-- The string literals that are read from a text. -/
def strings (s : List Char) : List Segment := (segments s).filter Segment.isString

theorem filter_isString_map_code (p : List Char) :
    (p.map Segment.code).filter Segment.isString = [] :=
  List.filter_eq_nil_iff.2 (List.forall_mem_map.2 fun _ _ => Bool.false_ne_true)

theorem filter_isString_headSegments (name : String) :
    (headSegments name).filter Segment.isString =
      [.quoted (preloadKey name), .quoted (preloadKey name)] := by
  have hcode := filter_isString_map_code
  unfold headSegments
  rw [List.filter_append, hcode, List.filter_cons_of_neg (by decide),
    List.filter_cons_of_pos rfl, List.filter_append, hcode, List.filter_cons_of_neg (by decide),
    List.filter_cons_of_pos rfl, hcode]
  rfl

/-- A line feed at the end of a text is no string. -/
theorem strings_endLine (hclosed : ∀ seg ∈ segments s, seg.isClosed = true) :
    (segments (endLine s)).filter Segment.isString = strings s := by
  rcases segments_endLine hclosed with h | h <;> rw [h]
  · rfl
  · rw [List.filter_append]
    exact List.append_nil _

theorem Segment.indented_eq_self_iff (seg : Segment) :
    seg.indented = seg ↔ indent false seg.text = seg.text := by
  rw [← seg.text_indented]
  refine ⟨congrArg Segment.text, fun h => ?_⟩
  cases seg with
  | code c => rfl
  | quoted t => exact congrArg Segment.quoted h
  | longString t => exact congrArg Segment.longString h
  | lineComment t => exact congrArg Segment.lineComment h
  | blockComment t => exact congrArg Segment.blockComment h

/-- **The strings of a registration are its two keys and the strings of the body, indented.**
They are the strings of the body themselves if and only if none of them goes over the end of
a line. -/
theorem strings_register (name : String) {source : List Char} (hreturn : '\r' ∉ source)
    (hclosed : ∀ seg ∈ segments source, seg.isClosed = true) :
    strings (register name source) =
        .quoted (preloadKey name) :: .quoted (preloadKey name) ::
          (strings source).map Segment.indented ∧
      ((strings (register name source)).drop 2 = strings source ↔
        ∀ seg ∈ strings source, '\n' ∉ seg.text) := by
  have hstrings : strings (register name source) =
      .quoted (preloadKey name) :: .quoted (preloadKey name) ::
        (strings source).map Segment.indented := by
    rw [strings, segments_register name hreturn hclosed, List.filter_append,
      filter_isString_headSegments, List.filter_cons_of_neg (by decide), List.filter_append,
      filter_isString_indentSegments, strings_endLine hclosed, filter_isString_map_code,
      List.append_nil]
    rfl
  refine ⟨hstrings, ?_⟩
  rw [hstrings, List.drop_succ_cons, List.drop_succ_cons, List.drop_zero]
  conv_lhs => rhs; rw [← List.map_id (strings source)]
  rw [List.map_inj_left]
  refine forall₂_congr fun seg hseg => ?_
  obtain ⟨hmem, hstring⟩ := List.mem_filter.1 hseg
  have hbare := endsBare_of_isClosed hclosed seg hmem hstring
  rw [← indent_eq_self_iff hbare.getLast?_ne]
  exact seg.indented_eq_self_iff

/-- Strings on one line stay as they are, whatever they hold, and one over two lines does not. -/
theorem strings_register_of_one_line :
    let source := "x = '--' .. [=[ a ]] ]=] --[[ \"b\n]]\ny = \"'\\\"\"".toList
    '\r' ∉ source ∧ (∀ seg ∈ segments source, seg.isClosed = true) ∧
      (strings (register "m" source)).drop 2 = strings source ∧
      strings source = [.quoted "'--'".toList, .longString "[=[ a ]] ]=]".toList,
        .quoted "\"'\\\"\"".toList] := by
  intro source
  have hreturn : '\r' ∉ source := by decide
  have hclosed : ∀ seg ∈ segments source, seg.isClosed = true := by decide +kernel
  have hline : ∀ seg ∈ strings source, '\n' ∉ seg.text := by decide +kernel
  exact ⟨hreturn, hclosed, (strings_register "m" hreturn hclosed).2.2 hline, by decide +kernel⟩

/-- **A string over two lines changes** when its text is registered as a module: it gets the
margin of its second line. -/
theorem register_indents_string :
    let source := "x = [[a\nb]]".toList
    '\r' ∉ source ∧ (∀ seg ∈ segments source, seg.isClosed = true) ∧
      strings source = [.longString "[[a\nb]]".toList] ∧
      (strings (register "m" source)).drop 2 = [.longString "[[a\n    b]]".toList] ∧
      (strings (register "m" source)).drop 2 ≠ strings source := by
  decide +kernel

end Lua
end LuaBundler
