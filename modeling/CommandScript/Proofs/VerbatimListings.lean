import CommandScript.Proofs.ConsoleRows
import CommandScript.Proofs.Listings
import CommandScript.Proofs.Reassembly
import CommandScript.Proofs.SavedScripts

/-!
# Listings that show their commands verbatim

A listing prints the rows of each command, in the order of the commands, so that cut at its line
feeds it is the list of all these rows. It is the list of the commands just when each of them is
shown verbatim, that is, when none holds an emoji code or a character that the console leaves out,
and all of them fit its columns (`out_commands_iff_verbatim`). A listing of which that holds can be
saved and listed again without a change, but for a byte order mark at its start.
-/
namespace CommandScript

namespace Text

/-- With line ends unified there is no carriage return. -/
theorem return_not_mem_unifyLineEnds (t : Text) : '\r' ∉ unifyLineEnds t := by
  fun_induction unifyLineEnds t with
  | case1 => simp
  | case2 rest ih | case3 rest _ ih => simpa using ih
  | case4 c rest _ hreturn ih => simpa [Ne.symm hreturn] using ih

theorem withLineEnds_lineFeed (t : Text) : withLineEnds .lineFeed t = t := by
  induction t with
  | nil => rfl
  | cons c t ih =>
    rw [withLineEnds_cons, ih]
    split
    · next hc => rw [hc]; rfl
    · rfl

end Text

namespace Reader

/-- No command of a text holds a character that the text does not hold, the separator and those of
the exit command apart. -/
theorem not_mem_commandAt_ofText {c : Char} {t : Text} (hsep : c ≠ Token.separator)
    (hexit : c ∉ exitCommand) (h : c ∉ t) (n : ℕ) : c ∉ (ofText t).commandAt n := by
  obtain ⟨k, -, hafter⟩ := exists_after_ofText t n
  refine not_mem_command_read hsep hexit fun raw hraw hc ↦ ?_
  rw [hafter] at hraw
  rcases Line.eq_or_mem_of_mem_normalize hc with hc | ⟨hc, -⟩
  · exact hsep hc
  · refine h ?_
    rw [← Text.flatten_physicalLines t]
    exact List.mem_flatten.2 ⟨raw, List.mem_of_mem_drop hraw, hc⟩

/-- The commands that a text lists can be read again. -/
theorem readable_of_mem_listing {t command : Text} (h : command ∈ (ofText t).listing) :
    Readable command ∧ command ≠ exitCommand := by
  obtain ⟨n, hexits⟩ := (ofText t).exists_exitsFirst
  rw [hexits.listing_eq] at h
  obtain ⟨k, hk, rfl⟩ := mem_commands.1 h
  exact ⟨readable_commandAt_ofText t k, hexits.2 k hk⟩

/-- **Assembled commands are listed as they are.** -/
theorem listing_assembled {commands : List Text}
    (h : ∀ command ∈ commands, Readable command ∧ command ≠ exitCommand) :
    (ofText (assembled commands)).listing = commands := by
  have hcommandAt : ∀ k, (ofText (assembled commands)).commandAt k =
      (commands.drop k).headD exitCommand := fun k ↦ by
    rw [commandAt, after_assembled fun c hc ↦ (h c hc).1,
      read_ownLines fun c hc ↦ (h c (List.mem_of_mem_drop hc)).1]
  have hexits : (ofText (assembled commands)).ExitsFirst commands.length := by
    refine ⟨by rw [hcommandAt, List.drop_length]; rfl, fun k hk ↦ ?_⟩
    rw [hcommandAt, List.drop_eq_getElem_cons hk]
    exact (h _ (List.getElem_mem hk)).2
  rw [hexits.listing_eq, Reader.commands]
  refine List.ext_getElem (by simp) fun k _ hk ↦ ?_
  rw [List.getElem_map, List.getElem_range, hcommandAt, List.drop_eq_getElem_cons hk]
  rfl

end Reader

/-- Pieces that are not empty are as many as what they are made for only if each is a single one. -/
theorem flatMap_eq_self_iff {α : Type} {l : List α} {f : α → List α} (hf : ∀ a ∈ l, f a ≠ []) :
    l.flatMap f = l ↔ ∀ a ∈ l, f a = [a] := by
  induction l with
  | nil => simp
  | cons a l ih =>
    have hrest : ∀ b ∈ l, f b ≠ [] := fun b hb ↦ hf b (List.mem_cons_of_mem a hb)
    rw [List.flatMap_cons, List.forall_mem_cons, ← ih hrest]
    constructor
    · intro h
      obtain ⟨b, others, hfa⟩ := List.exists_cons_of_ne_nil (hf a List.mem_cons_self)
      rw [hfa, List.cons_append, List.cons.injEq] at h
      obtain ⟨rfl, h⟩ := h
      -- the rest has at least as many pieces as members, so the first can have no more
      have hlength : l.length ≤ (l.flatMap f).length := by
        rw [List.length_flatMap]
        refine le_trans (by simp) (List.sum_le_sum fun c hc ↦ List.length_pos_iff.2 (hrest c hc))
      have hothers : others = [] := by
        have := congrArg List.length h
        rw [List.length_append] at this
        exact List.length_eq_zero_iff.1 (by omega)
      subst hothers
      exact ⟨hfa, h⟩
    · rintro ⟨hfa, h⟩
      rw [hfa, h]
      rfl

namespace CommandLine

variable {η : Type} {around : Surroundings η} {script : Text} {file : ℕ} {octets : List UInt8}

/-- The rows of a listing are those of its commands. -/
theorem physicalLines_out_list
    (hopen : around.files.openFile (Path.ofText script) = .ok (file, octets)) :
    Text.physicalLines (list around script).out =
      ((Script.reader octets).listing.flatMap fun command ↦
        Console.rows around.width
          (Console.showEmoji around.pictures command)).map (· ++ ['\n']) := by
  rw [(list_of_openFile hopen).2]
  have hrows : (Script.reader octets).listing.flatMap
        (Console.render around.pictures around.width) =
      ((Script.reader octets).listing.flatMap fun command ↦
        Console.rows around.width
          (Console.showEmoji around.pictures command)).flatMap (· ++ ['\n']) := by
    rw [List.flatMap_assoc]
    rfl
  rw [hrows]
  refine Text.physicalLines_flatMap_newline fun row hrow ↦ ?_
  obtain ⟨command, -, hrow⟩ := List.mem_flatMap.1 hrow
  exact Console.newline_not_mem_rows hrow

/-- A listing is the list of its commands when each of them is shown verbatim. -/
theorem physicalLines_out_list_eq_iff
    (hopen : around.files.openFile (Path.ofText script) = .ok (file, octets)) :
    Text.physicalLines (list around script).out =
        (Script.reader octets).listing.map (· ++ ['\n']) ↔
      ∀ command ∈ (Script.reader octets).listing,
        Console.Verbatim around.pictures around.width command := by
  have hinjective : Function.Injective fun row : Text ↦ row ++ ['\n'] :=
    List.append_left_injective ['\n']
  rw [physicalLines_out_list hopen, (List.map_injective_iff.2 hinjective).eq_iff]
  rcases Nat.eq_zero_or_pos around.width with hzero | hpos
  · -- without any columns nothing is printed
    have hnone : ∀ t, Console.rows around.width t = [] := fun t ↦ by
      rw [Console.rows, if_pos hzero]
    rw [List.flatMap_eq_nil_iff.2 fun command _ ↦ hnone _]
    simp only [hnone, Console.Verbatim]
    cases (Script.reader octets).listing with
    | nil => simp
    | cons command others =>
      constructor
      · intro h
        cases h
      · intro h
        cases h command List.mem_cons_self
  · exact flatMap_eq_self_iff fun command _ ↦ Console.rows_ne_nil hpos _

/-- A listing that shows its commands verbatim is the text with each command on a line of its
own. -/
theorem out_list_of_verbatim
    (hopen : around.files.openFile (Path.ofText script) = .ok (file, octets))
    (hverbatim : ∀ command ∈ (Script.reader octets).listing,
      Console.Verbatim around.pictures around.width command) :
    (list around script).out = Reader.assembled (Script.reader octets).listing := by
  rw [(list_of_openFile hopen).2, Reader.assembled]
  refine List.flatMap_congr fun command hcommand ↦ ?_
  have hrow : Console.rows around.width (Console.showEmoji around.pictures command) = [command] :=
    hverbatim command hcommand
  rw [Console.render, hrow, List.flatMap_singleton]
  rfl

/-- Commands on lines of their own that are saved are listed as they are. -/
theorem listing_encode_assembled {commands : List Text}
    (h : ∀ command ∈ commands, Reader.Readable command ∧ command ≠ exitCommand)
    (hreturn : ∀ command ∈ commands, '\r' ∉ command)
    (hmark : (Reader.assembled commands).head? ≠ some Script.markCharacter) :
    (Script.reader (Text.Utf8.encode (Reader.assembled commands))).listing = commands := by
  have hnone : '\r' ∉ Reader.assembled commands := by
    simp only [Reader.assembled, Reader.ownLine, List.mem_flatMap, not_exists, not_and]
    intro command hcommand hmem
    rcases List.mem_append.1 hmem with hmem | hmem
    · exact hreturn command hcommand hmem
    · exact absurd hmem (by decide)
  have htext := Script.text_saved false .lineFeed hnone hmark
  rw [Script.saved, Text.withLineEnds_lineFeed] at htext
  have hsaved : Script.text (Text.Utf8.encode (Reader.assembled commands)) =
      Reader.assembled commands := htext
  rw [Script.reader, hsaved]
  exact Reader.listing_assembled h

/-- The commands that a file lists can be read again and hold no carriage return. -/
theorem readable_of_mem_listing_reader {command : Text}
    (h : command ∈ (Script.reader octets).listing) :
    (Reader.Readable command ∧ command ≠ exitCommand) ∧ '\r' ∉ command := by
  refine ⟨Reader.readable_of_mem_listing h, ?_⟩
  obtain ⟨n, hexits⟩ := (Script.reader octets).exists_exitsFirst
  rw [hexits.listing_eq] at h
  obtain ⟨k, -, rfl⟩ := Reader.mem_commands.1 h
  exact Reader.not_mem_commandAt_ofText (by decide) (by decide)
    (Text.return_not_mem_unifyLineEnds _) k

/-- **When a listing shows the commands of its script verbatim.** For every script that opens and on
a console of any width, whatever pictures it knows, the listing ends with the status 0, and cut at
its line feeds it is the list of the rows of all commands, of which each has one at least, if there
are columns at all. It is the list of the commands themselves just when each of them is shown
verbatim. That is so for a command that holds no emoji code and no character that is left out, and
fits the columns; and for no other, but for one that begins with a joiner, where the columns may be
counted otherwise.

A listing that shows the commands verbatim and does not begin with the character of the byte order
mark can be saved and listed again, which gives the same listing. -/
theorem out_commands_iff_verbatim {arguments : List Text}
    (hparse : parse arguments = .ok (.commands script))
    (hopen : around.files.openFile (Path.ofText script) = .ok (file, octets)) :
    let commands := (Script.reader octets).listing
    let r := invoke around arguments
    r.ending = .exit 0 ∧
      (Text.physicalLines r.out = (commands.flatMap fun command ↦
        Console.rows around.width (Console.showEmoji around.pictures command)).map (· ++ ['\n'])) ∧
      (0 < around.width → ∀ command ∈ commands,
        Console.rows around.width (Console.showEmoji around.pictures command) ≠ []) ∧
      (Text.physicalLines r.out = commands.map (· ++ ['\n']) ↔
        ∀ command ∈ commands, Console.Verbatim around.pictures around.width command) ∧
      (∀ command ∈ commands,
        (Console.Fits around.pictures around.width command →
            Console.Verbatim around.pictures around.width command) ∧
          (Console.Verbatim around.pictures around.width command →
            0 < around.width ∧ Console.showEmoji around.pictures command = command ∧
              Console.visible command = command ∧
              (Text.columns command ≤ around.width ∨ command.head? = some Text.joiner))) ∧
      ((∀ command ∈ commands, Console.Verbatim around.pictures around.width command) →
        r.out.head? ≠ some Script.markCharacter →
          ∀ files again script' file', parse again = .ok (.commands script') →
            files.openFile (Path.ofText script') = .ok (file', Text.Utf8.encode r.out) →
              (invoke { around with files := files } again).out = r.out) := by
  intro commands r
  have hr : r = list around script := by simp only [r, invoke, hparse]
  have hreadable : ∀ command ∈ commands, _ := fun command h ↦ readable_of_mem_listing_reader h
  rw [hr]
  refine ⟨(list_of_openFile hopen).1, physicalLines_out_list hopen,
    fun hwidth command _ ↦ Console.rows_ne_nil hwidth _, physicalLines_out_list_eq_iff hopen,
    fun command hcommand ↦ ?_, fun hverbatim hmark files again script' file' hagain hopen' ↦ ?_⟩
  · obtain ⟨⟨hcommand, -⟩, -⟩ := hreadable command hcommand
    exact ⟨fun h ↦ h.verbatim hcommand.tight hcommand.ne_nil hcommand.newline hcommand.tab,
      fun h ↦ h.fits hcommand.tight hcommand.ne_nil hcommand.newline hcommand.tab⟩
  · have hout := out_list_of_verbatim hopen hverbatim
    rw [hout] at hmark hopen' ⊢
    have hsame := listing_encode_assembled (fun c hc ↦ (hreadable c hc).1)
      (fun c hc ↦ (hreadable c hc).2) hmark
    have hverbatim' : ∀ command ∈
        (Script.reader (Text.Utf8.encode (Reader.assembled commands))).listing,
          Console.Verbatim around.pictures around.width command := by
      rw [hsame]
      exact hverbatim
    let around' : Surroundings η := { around with files := files }
    have hlisted : (list around' script').out = _ := out_list_of_verbatim hopen' hverbatim'
    simp only [invoke, hagain]
    rw [hlisted, hsame]

/-- A script with a comment and a command of two lines, on a console of 20 columns, and the file in
which its listing has been saved. -/
theorem out_commands_iff_verbatim_saved :
    let octets := "# release\nbuild _\nall\nexit\ntidy\n".toUTF8.toList
    let files : FileStore := ⟨[([], 0), (["release".toList], 1), (["listing".toList], 2)],
      [(2, ⟨.file "# release\nbuild all\n".toUTF8.toList, FileStore.fileMode, 1⟩),
        (1, ⟨.file octets, FileStore.fileMode, 0⟩),
        (0, ⟨.directory, FileStore.directoryMode, 0⟩)], 2, []⟩
    let pictures : Console.Pictures := .ofTable [("smile".toList, "😄".toList)] (by decide)
    let around : Surroundings Unit :=
      ⟨files, [], 20, pictures, fun _ ↦ [],
        ⟨fun host _ _ ↦ (host, .notStarted []), fun _ _ ↦ none⟩, ()⟩
    let arguments := ["commands".toList, "release".toList]
    let again := ["commands".toList, "listing".toList]
    parse arguments = .ok (.commands "release".toList) ∧
      around.files.openFile (Path.ofText "release".toList) = .ok (1, octets) ∧
      Text.physicalLines (invoke around arguments).out =
        ["# release\n".toList, "build all\n".toList] ∧
      (invoke around again).out = (invoke around arguments).out := by
  intro octets files pictures around arguments again
  have hparse : parse arguments = .ok (.commands "release".toList) := by decide +kernel
  have hagain : parse again = .ok (.commands "listing".toList) := by decide +kernel
  have hopen : around.files.openFile (Path.ofText "release".toList) = .ok (1, octets) := by
    simp only [around, files]
    cbv
  have hlisting : (Script.reader octets).listing = ["# release".toList, "build all".toList] := by
    simp only [octets]
    cbv
  have hfits : ∀ command ∈ ["# release".toList, "build all".toList],
      Console.Fits around.pictures around.width command := by
    simp only [List.mem_cons, List.not_mem_nil, or_false, forall_eq_or_imp, forall_eq]
    exact ⟨⟨by decide, by cbv, by decide +kernel, by decide +kernel⟩,
      by decide, by cbv, by decide +kernel, by decide +kernel⟩
  obtain ⟨-, -, -, hiff, hcommands, hsaved⟩ := out_commands_iff_verbatim hparse hopen
  rw [hlisting] at hiff hcommands hsaved
  have hverbatim : ∀ command ∈ ["# release".toList, "build all".toList],
      Console.Verbatim around.pictures around.width command :=
    fun command hcommand ↦ (hcommands command hcommand).1 (hfits command hcommand)
  have hlines := hiff.2 hverbatim
  have hout : (invoke around arguments).out = "# release\nbuild all\n".toList := by
    rw [← Text.flatten_physicalLines (invoke around arguments).out, hlines]
    decide +kernel
  have hopen' : around.files.openFile (Path.ofText "listing".toList) =
      .ok (2, Text.Utf8.encode (invoke around arguments).out) := by
    rw [hout]
    simp only [around, files]
    cbv
  refine ⟨hparse, hopen, hlines, ?_⟩
  exact hsaved hverbatim (by rw [hout]; decide) around.files again "listing".toList 2 hagain hopen'

/-- A script with an emoji code whose picture the console knows, and a script with a command that
has more columns than the console: the listing of neither is the list of its commands. -/
theorem out_commands_not_verbatim :
    let pictures : Console.Pictures := .ofTable [("smile".toList, "😄".toList)] (by decide)
    let around (text : String) (width : ℕ) : Surroundings Unit :=
      ⟨⟨[([], 0), (["release".toList], 1)],
          [(1, ⟨.file text.toUTF8.toList, FileStore.fileMode, 0⟩),
            (0, ⟨.directory, FileStore.directoryMode, 0⟩)], 1, []⟩,
        [], width, pictures, fun _ ↦ [],
        ⟨fun host _ _ ↦ (host, .notStarted []), fun _ _ ↦ none⟩, ()⟩
    let arguments := ["commands".toList, "release".toList]
    let emoji := invoke (around "say :smile:\n" 80) arguments
    let long := invoke (around "build all targets\n" 10) arguments
    ((Script.reader "say :smile:\n".toUTF8.toList).listing = ["say :smile:".toList] ∧
        emoji.out = "say 😄\n".toList ∧
        Text.physicalLines emoji.out ≠ ["say :smile:\n".toList]) ∧
      (Script.reader "build all targets\n".toUTF8.toList).listing = ["build all targets".toList] ∧
        long.out = "build all \ntargets\n".toList ∧
        Text.physicalLines long.out ≠ ["build all targets\n".toList] := by
  intro pictures around arguments emoji long
  have hopen : (around "say :smile:\n" 80).files.openFile (Path.ofText "release".toList) =
      .ok (1, "say :smile:\n".toUTF8.toList) := by
    simp only [around]
    cbv
  have hlisting : (Script.reader "say :smile:\n".toUTF8.toList).listing =
      ["say :smile:".toList] := by cbv
  -- the code is shown as a picture, with which the row fits
  have hrow : Console.rows 80 (Console.showEmoji pictures "say :smile:".toList) =
      ["say 😄".toList] := by
    have hshown : Console.showEmoji pictures "say :smile:".toList = "say 😄".toList := by
      simp only [pictures]
      cbv
    have htight : Text.Tight "say 😄".toList := by
      constructor
      · have hhead : "say 😄".toList.head? = some 's' := by decide +kernel
        simpa [hhead] using (by decide : Text.isBlank 's' = false)
      · have hlast : "say 😄".toList.getLast? = some '😄' := by decide +kernel
        simpa [hlast] using (by decide +kernel : Text.isBlank '😄' = false)
    have hvisible : Console.visible "say 😄".toList = "say 😄".toList := by decide +kernel
    rw [hshown, Console.rows_of_not_mem (by decide) (by decide +kernel) (by decide +kernel),
      hvisible]
    exact Console.wrapLine_of_le htight (by decide +kernel) (by decide +kernel)
  have hemoji : emoji.out = "say 😄\n".toList := by
    have hout := (list_of_openFile hopen).2
    rw [hlisting, List.flatMap_singleton, Console.render, hrow] at hout
    exact hout
  have hlong : long.out = "build all \ntargets\n".toList := by
    simp only [long, around, arguments]
    cbv
  refine ⟨⟨hlisting, hemoji, ?_⟩, by cbv, hlong, ?_⟩
  · rw [hemoji]
    decide +kernel
  · rw [hlong]
    exact fun h ↦ absurd (congrArg List.length h) (by decide +kernel)

end CommandLine

end CommandScript
