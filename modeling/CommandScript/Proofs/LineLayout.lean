import CommandScript.Proofs.LineContents
import CommandScript.Proofs.LineEnds
import CommandScript.Proofs.TokenGrammar
import Mathlib.Logic.Relation

/-!
# The layout of lines

How a line is laid out makes no difference: blanks at its ends, tabs in the place of spaces, and the
number of spaces between two tokens. An `Edit` is one such change of a physical line. It leaves the
content of the line as it is (`Edit.content_eq`), and therefore texts that come from each other by
edits of their lines read alike (`readAlike_of_edits`), those with other line ends among them.

The first two kinds of edits leave the normal form of a line as it is. The third does not, and is
harmless only between tokens, where the grammar of lines allows any number of spaces, and not in a
comment, which is kept to the letter.
-/
namespace CommandScript

namespace Line

/-- A line with its tabs written as spaces. -/
def untab (raw : Text) : Text := raw.map fun c ↦ if c = '\t' then ' ' else c

theorem normalize_eq_trim_untab (raw : Text) : normalize raw = Text.trim (untab raw) := rfl

theorem untab_append (s t : Text) : untab (s ++ t) = untab s ++ untab t := List.map_append

theorem untab_spaces (n : ℕ) : untab (Token.spaces n) = Token.spaces n :=
  List.map_replicate ..

theorem isBlank_of_mem_untab {blanks : Text} (h : ∀ c ∈ blanks, Text.isBlank c = true) :
    ∀ c ∈ untab blanks, Text.isBlank c = true := by
  intro c hc
  obtain ⟨d, hd, rfl⟩ := List.mem_map.1 hc
  split
  · rfl
  · exact h d hd

end Line

/-! ### Spaces between tokens -/

namespace Token

theorem spaces_add (m n : ℕ) : spaces (m + n) = spaces m ++ spaces n :=
  (List.replicate_append_replicate ..).symm

/-- More spaces between two tokens of a line that is laid out. -/
theorem layOut_append_spaces_append (left right : List (Text × ℕ)) (token : Text) (i n j : ℕ) :
    layOut 0 (left ++ [(token, i)]) ++ (spaces n ++ layOut j right) =
      layOut 0 (left ++ (token, i + n + j) :: right) := by
  simp only [layOut, List.flatMap_append, List.flatMap_cons, List.flatMap_nil, List.append_nil,
    spaces_add, List.append_assoc]

/-- Tokens that fit are not empty. -/
theorem Fits.ne_nil_of_mem {cells : List (Text × ℕ)} (h : Fits cells) :
    ∀ cell ∈ cells, cell.1 ≠ [] := by
  induction h with
  | nil => simp
  | word _ _ _ _ ih => exact List.forall_mem_cons.2 ⟨List.cons_ne_nil _ _, ih⟩
  | quoted _ _ _ ih => exact List.forall_mem_cons.2 ⟨List.cons_ne_nil _ _, ih⟩
  | unclosed => simp

/-- A line that is laid out from a token that is not empty is not empty. -/
theorem layOut_ne_nil {lead : ℕ} {cells : List (Text × ℕ)} (cell : Text × ℕ) (hcell : cell ∈ cells)
    (hne : cell.1 ≠ []) : layOut lead cells ≠ [] := by
  intro hnil
  have hcells := (List.append_eq_nil_iff.1 hnil).2
  exact hne (List.append_eq_nil_iff.1 (List.flatMap_eq_nil_iff.1 hcells cell hcell)).1

/-- Any number of spaces behind a token, but not none, leaves tokens fitting if another token
follows. By induction on the tokens before it. -/
theorem Fits.spaces {left right : List (Text × ℕ)} {token : Text} {n n' : ℕ}
    (h : Fits (left ++ (token, n) :: right)) (hright : right ≠ []) (hn' : 0 < n') :
    Fits (left ++ (token, n') :: right) := by
  induction left with
  | nil =>
    cases h with
    | word hc hsep _ hcells => exact .word hc hsep (.inl hn') hcells
    | quoted hq hinner hcells => exact .quoted hq hinner hcells
    | unclosed => exact absurd rfl hright
  | cons cell left ih =>
    rw [List.cons_append] at h ⊢
    generalize hrest : left ++ (token, n) :: right = rest at h
    cases h with
    | word hc hsep hend hcells =>
      -- there are tokens behind the word, so it has spaces behind it
      have hpos := hend.resolve_right (by simp [← hrest])
      exact .word hc hsep (.inl hpos) (ih (hrest ▸ hcells))
    | quoted hq hinner hcells => exact .quoted hq hinner (ih (hrest ▸ hcells))
    | unclosed => simp at hrest

end Token

namespace Line

/-- Whether spaces with texts before and after them on a line **part** two consecutive tokens: the
line is laid out in its normal form with a token and some spaces before them, and some spaces and
another token behind them. -/
def Parts (before : Text) (n : ℕ) (after : Text) : Prop :=
  ∃ (left right : List (Text × ℕ)) (token : Text) (i j : ℕ), right ≠ [] ∧
    Token.Fits (left ++ (token, i + n + j) :: right) ∧
    Text.trimStart (untab before) = Token.layOut 0 (left ++ [(token, i)]) ∧
    Text.trimEnd (untab after) = Token.layOut j right

/-- Spaces that part two tokens are a part of the normal form, however many they are. -/
theorem Parts.normalize_eq {before after : Text} {n : ℕ} (h : Parts before n after) (m : ℕ) :
    Text.trimStart (untab before) ≠ [] ∧
      normalize (before ++ Token.spaces m ++ after) =
        Text.trimStart (untab before) ++ (Token.spaces m ++ Text.trimEnd (untab after)) := by
  obtain ⟨left, right, token, i, j, hright, hfits, hbefore, hafter⟩ := h
  obtain ⟨cell, others, rfl⟩ := List.exists_cons_of_ne_nil hright
  have hstart : Text.trimStart (untab before) ≠ [] := by
    rw [hbefore]
    exact Token.layOut_ne_nil (token, i) (by simp)
      (hfits.ne_nil_of_mem (token, i + n + j) (by simp))
  have hend : Text.trimEnd (untab after) ≠ [] := by
    rw [hafter]
    exact Token.layOut_ne_nil cell (by simp) (hfits.ne_nil_of_mem cell (by simp))
  have hgap := Text.trimEnd_append_of_ne_nil (Token.spaces m) hend
  refine ⟨hstart, ?_⟩
  rw [normalize_eq_trim_untab, List.append_assoc, untab_append, untab_append, untab_spaces,
    Text.trim_append_of_ne_nil hstart (by simp [hgap, hend]), hgap]

/-- **The number of spaces between two tokens makes no difference to the tokens**, as long as there
are any. -/
theorem Parts.tokens_eq {before after : Text} {n n' : ℕ} (h : Parts before n after)
    (hn' : 0 < n') :
    tokens (before ++ Token.spaces n' ++ after) = tokens (before ++ Token.spaces n ++ after) := by
  have hnormal := fun m ↦ (h.normalize_eq m).2
  obtain ⟨left, right, token, i, j, hright, hfits, hbefore, hafter⟩ := h
  have htokens {m : ℕ} (hm : Token.Fits (left ++ (token, i + m + j) :: right)) :
      tokens (before ++ Token.spaces m ++ after) =
        (left ++ (token, i + m + j) :: right).map Prod.fst := by
    rw [tokens, hnormal, hbefore, hafter, Token.layOut_append_spaces_append, hm.split_layOut]
  rw [htokens hfits, htokens (hfits.spaces hright (by omega))]
  simp

/-- The number of spaces between two tokens does not make a line a comment. -/
theorem Parts.isComment_eq {before after : Text} {n : ℕ} (h : Parts before n after) (m m' : ℕ) :
    isComment (before ++ Token.spaces m ++ after) =
      isComment (before ++ Token.spaces m' ++ after) := by
  obtain ⟨hstart, hnormal⟩ := h.normalize_eq m
  rw [isComment, isComment, hnormal, (h.normalize_eq m').2, List.head?_append_of_ne_nil _ hstart,
    List.head?_append_of_ne_nil _ hstart]

/-! ### Edits of a line -/

/-- One **edit** of the layout of a physical line. -/
inductive Edit : Text → Text → Prop
  /-- Blanks are added at its start. -/
  | start {blanks : Text} (raw : Text) (hblanks : ∀ c ∈ blanks, Text.isBlank c = true)
      (hlf : '\n' ∉ blanks) : Edit raw (blanks ++ raw)
  /-- Blanks are added at its end, before the line feed if there is one. -/
  | finish {blanks ending : Text} (body : Text) (hblanks : ∀ c ∈ blanks, Text.isBlank c = true)
      (hlf : '\n' ∉ blanks) (hending : ending = [] ∨ ending = ['\n']) :
      Edit (body ++ ending) (body ++ blanks ++ ending)
  /-- A tab becomes a space. -/
  | untab (before after : Text) : Edit (before ++ '\t' :: after) (before ++ ' ' :: after)
  /-- The number of spaces between two tokens changes, where there are some left and the line is no
  comment. -/
  | spaces {before after : Text} {n n' : ℕ} (hparts : Parts before n after) (hn' : 0 < n')
      (hcomment : isComment (before ++ Token.spaces n ++ after) = false) :
      Edit (before ++ Token.spaces n ++ after) (before ++ Token.spaces n' ++ after)
  /-- An edit is taken back. -/
  | undo {raw raw' : Text} (h : Edit raw raw') : Edit raw' raw

/-- Lines with the same normal form have the same content. -/
theorem content_eq_of_normalize_eq {raw raw' : Text} (h : normalize raw' = normalize raw) :
    content raw' = content raw := by
  rw [content, h, content]

/-- **An edit leaves the content of a line as it is.** -/
theorem Edit.content_eq {raw raw' : Text} (h : Edit raw raw') : content raw' = content raw := by
  induction h with
  | @start blanks raw hblanks _ =>
    apply content_eq_of_normalize_eq
    rw [normalize_eq_trim_untab, untab_append,
      Text.trim_blanks_append _ (isBlank_of_mem_untab hblanks), normalize_eq_trim_untab]
  | @finish blanks ending body hblanks _ hending =>
    have hend : ∀ c ∈ ending, Text.isBlank c = true := by
      rcases hending with rfl | rfl
      · exact List.forall_mem_nil _
      · exact List.forall_mem_singleton.2 rfl
    have hboth : ∀ c ∈ blanks ++ ending, Text.isBlank c = true :=
      fun c hc ↦ (List.mem_append.1 hc).elim (hblanks c) (hend c)
    apply content_eq_of_normalize_eq
    rw [normalize_eq_trim_untab, normalize_eq_trim_untab, List.append_assoc, untab_append body,
      untab_append body, Text.trim_append_blanks _ (isBlank_of_mem_untab hboth),
      Text.trim_append_blanks _ (isBlank_of_mem_untab hend)]
  | untab before after =>
    apply content_eq_of_normalize_eq
    rw [normalize_eq_trim_untab, normalize_eq_trim_untab, untab_append, untab_append]
    rfl
  | @spaces before after n n' hparts hn' hcomment =>
    have hcomment' : isComment (before ++ Token.spaces n' ++ after) = false := by
      rw [hparts.isComment_eq n' n, hcomment]
    have htokens := hparts.tokens_eq hn'
    rw [content_of_not_isComment hcomment', content_of_not_isComment hcomment, body, body, ending,
      ending, htokens]
  | undo _ ih => exact ih.symm

end Line

namespace Reader

/-! ### Edits of a text -/

/-- A text is **edited** into another: one of its physical lines is, and all others are what they
were. -/
def Edited (t t' : Text) : Prop :=
  ∃ before raw raw' after, Text.physicalLines t = before ++ raw :: after ∧
    Text.physicalLines t' = before ++ raw' :: after ∧ Line.Edit raw raw'

/-- An edited text has lines with the same contents. -/
theorem Edited.map_content_eq {t t' : Text} (h : Edited t t') :
    (Text.physicalLines t').map Line.content = (Text.physicalLines t).map Line.content := by
  obtain ⟨before, raw, raw', after, hlines, hlines', hedit⟩ := h
  rw [hlines, hlines', List.map_append, List.map_append, List.map_cons, List.map_cons,
    hedit.content_eq]

/-- **Texts that come from each other by edits read alike.** By induction on the edits. -/
theorem readAlike_of_edits {t t' : Text} (h : Relation.ReflTransGen Edited t t') :
    ReadAlike t t' := by
  refine readAlike_of_contents ?_
  induction h with
  | refl => rfl
  | tail _ hedit ih => rw [hedit.map_content_eq, ih]

/-- Edits behind a line. -/
theorem Edited.behind_line {body t t' : Text} (hlf : '\n' ∉ body) (h : Edited t t') :
    Edited (body ++ '\n' :: t) (body ++ '\n' :: t') := by
  obtain ⟨before, raw, raw', after, hlines, hlines', hedit⟩ := h
  refine ⟨(body ++ ['\n']) :: before, raw, raw', after, ?_, ?_, hedit⟩
  · rw [Text.physicalLines_append _ hlf, hlines, List.cons_append]
  · rw [Text.physicalLines_append _ hlf, hlines', List.cons_append]

/-- A carriage return before the line feed of a first line. -/
theorem edited_return {body : Text} (rest : Text) (hlf : '\n' ∉ body) :
    Edited (body ++ '\n' :: rest) (body ++ ['\r'] ++ '\n' :: rest) := by
  have hlf' : '\n' ∉ body ++ ['\r'] := by simp [hlf]
  refine ⟨[], body ++ ['\n'], body ++ ['\r'] ++ ['\n'], Text.physicalLines rest,
    Text.physicalLines_append rest hlf, Text.physicalLines_append rest hlf', ?_⟩
  exact .finish body (List.forall_mem_singleton.2 rfl) (by decide) (.inr rfl)

/-- **Carriage returns before the line feeds are edits.** By induction on the lines of the text. -/
theorem edits_withLineEnds_both (t : Text) :
    Relation.ReflTransGen Edited t (Text.withLineEnds .both t) := by
  have hlines := Text.linesOf_physicalLines t
  generalize Text.physicalLines t = lines at hlines
  induction hlines with
  | nil => exact .refl
  | last _ hlf => rw [Text.withLineEnds_of_not_mem _ hlf]
  | @cons body rest lines hlf _ ih =>
    have hlf' : '\n' ∉ body ++ ['\r'] := by simp [hlf]
    have hends : Text.withLineEnds .both (body ++ '\n' :: rest) =
        body ++ ['\r'] ++ '\n' :: Text.withLineEnds .both rest := by
      rw [Text.withLineEnds_append, Text.withLineEnds_of_not_mem _ hlf, Text.withLineEnds_cons,
        List.append_assoc]
      rfl
    rw [hends]
    exact (ih.lift _ fun _ _ h ↦ h.behind_line hlf').head (edited_return rest hlf)

/-- **How lines are laid out makes no difference.** A text that comes from another by any number of
edits of its lines, each of which leaves the lines as many as they are, reads as that does, and so
does the text with a carriage return before each line feed. -/
theorem readAlike_of_layout (t : Text) :
    (∀ t', Relation.ReflTransGen Edited t t' → ReadAlike t t') ∧
      ReadAlike t (Text.withLineEnds .both t) :=
  ⟨fun _ h ↦ readAlike_of_edits h, readAlike_of_edits (edits_withLineEnds_both t)⟩

/-- Fewer spaces before a quote, a tab for a space within it, and a carriage return at the end. -/
theorem readAlike_of_layout_quotes :
    let t := "say  \"a  b\" now\nall\n".toList
    let t' := "say \"a \tb\" now\nall\r\n".toList
    Relation.ReflTransGen Edited t t' ∧ ReadAlike t t' := by
  intro t t'
  have hnow : Token.Fits [("now".toList, 0)] := .word rfl (by decide) (.inr rfl) .nil
  have hquote : Token.Fits [("\"a  b\"".toList, 1), ("now".toList, 0)] :=
    @Token.Fits.quoted Text.doubleQuote "a  b".toList 1 _ rfl (by decide) hnow
  have hfits : Token.Fits [("say".toList, 2), ("\"a  b\"".toList, 1), ("now".toList, 0)] :=
    .word rfl (by decide) (.inl (by decide)) hquote
  have hparts : Line.Parts "say".toList 2 "\"a  b\" now\n".toList :=
    ⟨[], [("\"a  b\"".toList, 1), ("now".toList, 0)], "say".toList, 0, 0, by simp, hfits,
      by decide, by decide⟩
  have hspaces : Edited t "say \"a  b\" now\nall\n".toList :=
    ⟨[], "say  \"a  b\" now\n".toList, "say \"a  b\" now\n".toList, ["all\n".toList], by decide,
      by decide, .spaces hparts Nat.one_pos (by cbv)⟩
  have htab : Edited "say \"a  b\" now\nall\n".toList "say \"a \tb\" now\nall\n".toList :=
    ⟨[], "say \"a  b\" now\n".toList, "say \"a \tb\" now\n".toList, ["all\n".toList], by decide,
      by decide, .undo (.untab "say \"a ".toList "b\" now\n".toList)⟩
  have hreturn : Edited "say \"a \tb\" now\nall\n".toList t' :=
    ⟨["say \"a \tb\" now\n".toList], "all\n".toList, "all\r\n".toList, [], by decide, by decide,
      @Line.Edit.finish ['\r'] ['\n'] "all".toList (List.forall_mem_singleton.2 rfl) (by decide)
        (.inr rfl)⟩
  have hedits : Relation.ReflTransGen Edited t t' :=
    ((Relation.ReflTransGen.single hspaces).tail htab).tail hreturn
  exact ⟨hedits, (readAlike_of_layout t).1 t' hedits⟩

end Reader

end CommandScript
