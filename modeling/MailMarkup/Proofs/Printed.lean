import MailMarkup.Command.Run
import MailMarkup.Proofs.Decoding
import MailMarkup.Proofs.LineEnds

namespace MailMarkup.Command

namespace Source

def bytes (s : Source) : List UInt8 := s.document.toUTF8.data.toList

def textLines (s : Source) : List String :=
  (check s.document).map fun f => s!"{s.path}:{f.lineNumber}: [{f.code.label}] {f.message}\n"

def entries (s : Source) : List Json :=
  (check s.document).map fun f => .obj [("path", .str s.path), ("lineNumber", .int f.lineNumber),
    ("lineContent", .str f.lineContent), ("errorTag", .str f.errorTag), ("message", .str f.message),
    ("code", .str f.code.label)]

def status (s : Source) : Nat := if check s.document = [] then 0 else 1

def reread (s : Source) : Source := ⟨s.path, fileText s.bytes⟩

theorem check_reread (s : Source) : check s.reread.document = check s.document := by
  have hdecode := Text.Utf8.decodeLossy_toUTF8 s.document
  rw [reread, check, fileText, bytes, hdecode, lines_unifyLineEnds, String.ofList_toList]
  rfl

end Source

def printedArray (items : List Json) : String := (Json.arr items).indented ++ "\n"

theorem readAll_of_files {files : FileSystem} {sources : List Source}
    (h : ∀ s ∈ sources, files s.path = .ok s.bytes) :
    readAll files (sources.map Source.path) = .ok (sources.map Source.reread) := by
  induction sources with
  | nil => rfl
  | cons s sources ih =>
    obtain ⟨hs, hrest⟩ := List.forall_mem_cons.mp h
    simp only [List.map_cons, readAll, hs, ih hrest]
    rfl

section CheckAll

variable (level : LogLevel) (sources : List Source)

theorem found_reread :
    ((sources.map Source.reread).map fun s => (s.path, check s.document)) =
      sources.map fun s => (s.path, check s.document) := by
  rw [List.map_map]
  apply List.map_congr_left
  intro s _
  exact Prod.ext rfl s.check_reread

theorem checkAll_text :
    (checkAll false level (sources.map Source.reread)).stdout =
      String.join (sources.flatMap Source.textLines) := by
  simp only [checkAll, found_reread, render, List.flatMap_map, Bool.false_eq_true, if_false]
  rfl

theorem checkAll_array :
    (checkAll true level (sources.map Source.reread)).stdout =
      printedArray (sources.flatMap Source.entries) := by
  simp only [checkAll, found_reread, render, List.flatMap_map, if_true, printedArray]
  rfl

theorem status_max :
    (if ∃ s ∈ sources, check s.document ≠ [] then 1 else 0) =
      (sources.map Source.status).foldr max 0 := by
  induction sources with
  | nil => rfl
  | cons s sources ih =>
    have hle : (sources.map Source.status).foldr max 0 ≤ 1 := by
      rw [← ih]
      split <;> simp
    rw [List.map_cons, List.foldr_cons, Source.status]
    by_cases h : check s.document = []
    · simpa [h] using ih
    · simp [h, Nat.max_eq_left hle]

theorem checkAll_ending (json : Bool) :
    (checkAll json level (sources.map Source.reread)).ending =
      .exit (if ∃ s ∈ sources, check s.document ≠ [] then 1 else 0) := by
  have hany : (sources.any fun s => !(check s.document).isEmpty) = true ↔
      ∃ s ∈ sources, check s.document ≠ [] := by
    simp
  simp only [checkAll, found_reread, List.any_map, Function.comp_def, ← hany]

end CheckAll

def Options.arguments (o : Options) : List String :=
  (if o.json then ["--json"] else []) ++ "--" :: o.paths

theorem finish_endRun (json : Bool) (paths : List String) :
    (Reading.endRun ⟨json, none, []⟩ (("--" :: paths).reverse ++ [])).finish =
      .ok (.run ⟨json, paths⟩) := by
  have hrun : (("--" :: paths).reverse ++ []).isEmpty = false := by simp
  rw [Reading.endRun, hrun]
  simp [Reading.takeRun, Reading.finish]

theorem parse_arguments (o : Options) : parse o.arguments = .ok (.run o) := by
  obtain ⟨json, paths⟩ := o
  cases json with
  | false => exact finish_endRun false paths
  | true => exact finish_endRun true paths

structure Reports (json : Bool) (sources : List Source) (r : Result) : Prop where
  text : json = false → r.stdout = String.join (sources.flatMap Source.textLines)
  array : json = true → r.stdout = printedArray (sources.flatMap Source.entries)
  ending : r.ending = .exit (if ∃ s ∈ sources, check s.document ≠ [] then 1 else 0)

structure Concatenates (json : Bool) (parts : List Result) (r : Result) : Prop where
  text : json = false → r.stdout = String.join (parts.map Result.stdout)
  array : json = true → ∃ arrays : List (List Json),
    parts.map Result.stdout = arrays.map printedArray ∧ r.stdout = printedArray arrays.flatten
  ending : ∃ statuses : List Nat, parts.map Result.ending = statuses.map Ending.exit ∧
    r.ending = .exit (statuses.foldr max 0)

theorem join_flatMap {α : Type} (f : α → List String) (items : List α) :
    String.join (items.flatMap f) = String.join (items.map fun a => String.join (f a)) := by
  induction items with
  | nil => rfl
  | cons a items ih =>
    rw [List.flatMap_cons, List.map_cons, String.join_append, String.join_cons, ih]

theorem concatenates_of_reports {json : Bool} {sources : List Source} {r : Result}
    {part : Source → Result} (hr : Reports json sources r)
    (hpart : ∀ s ∈ sources, Reports json [s] (part s)) :
    Concatenates json (sources.map part) r where
  text := by
    intro hjson
    rw [hr.text hjson, join_flatMap, List.map_map]
    apply congrArg String.join
    apply List.map_congr_left
    intro s hs
    simpa using ((hpart s hs).text hjson).symm
  array := by
    intro hjson
    refine ⟨sources.map Source.entries, ?_, ?_⟩
    · rw [List.map_map, List.map_map]
      apply List.map_congr_left
      intro s hs
      simpa using (hpart s hs).array hjson
    · rw [hr.array hjson, List.flatMap_def]
  ending := by
    refine ⟨sources.map Source.status, ?_, ?_⟩
    · rw [List.map_map, List.map_map]
      apply List.map_congr_left
      intro s hs
      have hstatus := (hpart s hs).ending
      rw [status_max] at hstatus
      simpa using hstatus
    · rw [hr.ending, status_max]

section Run

variable {world : World} {settings : Settings} {level : LogLevel}
  (hsettings : Settings.load world.settings = .ok settings)
  (hlevel : LogLevel.parse settings.logLevel = .ok level)
  {json : Bool} {sources : List Source}
  (hne : sources ≠ []) (hfiles : ∀ s ∈ sources, world.files s.path = .ok s.bytes)

include hsettings hlevel hne hfiles

theorem run_eq_checkAll {argv : List String}
    (hargv : parse argv = .ok (.run ⟨json, sources.map Source.path⟩)) :
    run argv world =
      { checkAll json level (sources.map Source.reread) with
        stderr := world.settings.warnings ++
          (checkAll json level (sources.map Source.reread)).stderr } := by
  have hpaths : (sources.map Source.path).isEmpty = false := by
    simpa [List.isEmpty_eq_false_iff] using hne
  have hread := readAll_of_files hfiles
  simp only [run, hargv, configure, hsettings, runWith, hlevel, hpaths, hread]
  rfl

theorem reports_run {argv : List String}
    (hargv : parse argv = .ok (.run ⟨json, sources.map Source.path⟩)) :
    Reports json sources (run argv world) := by
  rw [run_eq_checkAll hsettings hlevel hne hfiles hargv]
  refine ⟨?_, ?_, checkAll_ending level sources json⟩
  · rintro rfl
    exact checkAll_text level sources
  · rintro rfl
    exact checkAll_array level sources

end Run

/-- The command prints what is found in the documents its files hold, and no more; over several
files it prints what it prints over each of them. -/
theorem run_prints_what_is_found {world : World} {settings : Settings} {level : LogLevel}
    {sources : List Source} (hsettings : Settings.load world.settings = .ok settings)
    (hlevel : LogLevel.parse settings.logLevel = .ok level) (hne : sources ≠ [])
    (hfiles : ∀ s ∈ sources, world.files s.path = .ok s.bytes) (json : Bool)
    {argv : List String} (hargv : parse argv = .ok (.run ⟨json, sources.map Source.path⟩)) :
    Reports json sources (run argv world) ∧
      Concatenates json
        (sources.map fun s => run (Options.arguments ⟨json, [s.path]⟩) world)
        (run argv world) := by
  have hwhole := reports_run hsettings hlevel hne hfiles hargv
  refine ⟨hwhole, concatenates_of_reports hwhole ?_⟩
  intro s hs
  apply reports_run hsettings hlevel (List.cons_ne_nil s [])
  · intro s' hs'
    rw [List.mem_singleton.mp hs']
    exact hfiles s hs
  · exact parse_arguments ⟨json, [s.path]⟩

theorem two_files_are_printed :
    let sources : List Source := [⟨"a.html", "<p>é\r\n</b>"⟩, ⟨"b/c.html", "<i></i>"⟩]
    let files : FileSystem := fun path =>
      .ok (Source.bytes ⟨path, if path = "a.html" then "<p>é\r\n</b>" else "<i></i>"⟩)
    let world : World := ⟨⟨[], [], []⟩, files, []⟩
    let argv := ["--js", "a.html", "b/c.html"]
    (∀ s ∈ sources, world.files s.path = .ok s.bytes) ∧ Reports true sources (run argv world) ∧
      Concatenates true
        (sources.map fun s => run (Options.arguments ⟨true, [s.path]⟩) world)
        (run argv world) := by
  intro sources files world argv
  have hfiles : ∀ s ∈ sources, world.files s.path = .ok s.bytes := by
    simp [sources, world, files]
  obtain ⟨settings, hsettings, hlevel⟩ : ∃ settings,
      Settings.load ⟨[], [], []⟩ = .ok settings ∧ LogLevel.parse settings.logLevel = .ok ⟨20⟩ :=
    ⟨_, rfl, rfl⟩
  exact ⟨hfiles, run_prints_what_is_found hsettings hlevel (List.cons_ne_nil _ _) hfiles true rfl⟩

end MailMarkup.Command
