import MailMarkup.Command.Run

namespace MailMarkup

theorem FileTree.follow_ne_embeddedNul (tree : FileTree) (here : Option (List String))
    (names : List String) : tree.follow here names ≠ .error .embeddedNul := by
  fun_induction follow tree here names <;> simp_all

theorem FileTree.fileSystem_eq_embeddedNul_iff (tree : FileTree) (path : String) :
    tree.fileSystem path = .error .embeddedNul ↔ '\x00' ∈ path.toList := by
  unfold fileSystem
  by_cases hnul : '\x00' ∈ path.toList
  · simp [hnul]
  · have hfollow := tree.follow_ne_embeddedNul
      (if path.toList.head? == some '/' then none else some []) (components path)
    simp only [List.contains_eq_mem, hnul, decide_false, Bool.false_eq_true, ↓reduceIte, iff_false]
    split
    · simp
    · split
      · simp
      · exact hfollow

def FileSystem.canRead (files : FileSystem) (path : String) : Bool := (files path).isOk

theorem FileSystem.canRead_eq_false_iff {files : FileSystem} {path : String} :
    files.canRead path = false ↔ ∃ e, files path = .error e := by
  unfold canRead
  cases files path <;> simp [Except.isOk, Except.toBool]

namespace Command

theorem readAll_of_first_error {files : FileSystem} {paths : List String} {path : String}
    {e : OpenError} (hfirst : paths.find? (!files.canRead ·) = some path)
    (herror : files path = .error e) :
    readAll files paths = .error (OpenError.ending path e) := by
  induction paths with
  | nil => cases hfirst
  | cons p paths ih =>
    cases hread : files p with
    | error e' =>
      rw [List.find?_cons_of_pos (by simp [FileSystem.canRead_eq_false_iff, hread])] at hfirst
      obtain rfl := Option.some.inj hfirst
      rw [hread] at herror
      obtain rfl := Except.error.inj herror
      simp only [readAll, hread]
    | ok bytes =>
      rw [List.find?_cons_of_neg (by simp [FileSystem.canRead, hread, Except.isOk, Except.toBool])]
        at hfirst
      simp only [readAll, hread, ih hfirst]

/-- The command ends because of a path that it cannot read, and says so; nothing is printed. -/
structure StopsAt (world : World) (path : String) (r : Result) : Prop where
  ending : r.ending = .exit 2
  stdout : r.stdout = ""
  stderr :
    world.files path = .error .notFound ∧
        r.stderr = world.settings.warnings ++ s!"file not found: {path}\n" ∨
      ∃ reason, world.files path = .error (.refused reason) ∧
        r.stderr = world.settings.warnings ++ s!"cannot read {path}: {reason}\n"

section Run

variable {world : World} {settings : Settings} {level : LogLevel}
  (hsettings : Settings.load world.settings = .ok settings)
  (hlevel : LogLevel.parse settings.logLevel = .ok level)

include hsettings hlevel

theorem run_of_readAll_error {options : Options} {argv : List String} {ending : Ending}
    {message : String} (hargv : parse argv = .ok (.run options)) (hne : options.paths ≠ [])
    (hread : readAll world.files options.paths = .error (ending, message)) :
    run argv world = ⟨ending, "", world.settings.warnings ++ message⟩ := by
  have hpaths : options.paths.isEmpty = false := List.isEmpty_eq_false_iff.mpr hne
  simp only [run, hargv, configure, hsettings, runWith, hlevel, hpaths, hread]
  rfl

/-- Of several paths the first that cannot be read decides how the command ends, whatever stands in
the files before and behind it. -/
theorem run_stops_at_first_unreadable {json : Bool} {paths argv : List String}
    (hargv : parse argv = .ok (.run ⟨json, paths⟩))
    (hnul : ∀ path ∈ paths, world.files path ≠ .error .embeddedNul)
    (hunreadable : ∃ path ∈ paths, world.files.canRead path = false) :
    ∃ path, paths.find? (!world.files.canRead ·) = some path ∧
      StopsAt world path (run argv world) := by
  obtain ⟨path, hfirst⟩ : ∃ path, paths.find? (!world.files.canRead ·) = some path := by
    rw [← Option.isSome_iff_exists, List.find?_isSome]
    simpa using hunreadable
  have hmem := List.mem_of_find?_eq_some hfirst
  obtain ⟨e, herror⟩ : ∃ e, world.files path = .error e := by
    rw [← FileSystem.canRead_eq_false_iff]
    simpa using List.find?_some hfirst
  have hrun := run_of_readAll_error hsettings hlevel hargv (List.ne_nil_of_mem hmem)
    (readAll_of_first_error hfirst herror)
  refine ⟨path, hfirst, ?_⟩
  rw [hrun]
  cases e with
  | notFound => exact ⟨rfl, rfl, Or.inl ⟨herror, rfl⟩⟩
  | refused reason => exact ⟨rfl, rfl, Or.inr ⟨reason, herror, rfl⟩⟩
  | embeddedNul => exact absurd herror (hnul path hmem)

end Run

theorem directory_stops_the_command :
    let tree : FileTree := ⟨[(["a"], [60, 112, 62]), (["c"], [60, 98, 62])], [["d"]]⟩
    let world : World := ⟨⟨[], [], []⟩, tree.fileSystem, []⟩
    let paths := ["a", "d", "b", "c"]
    (world.files "a" = .ok [60, 112, 62] ∧
      world.files "d" = .error (.refused "Is a directory") ∧
      ∀ path ∈ paths, world.files path ≠ .error .embeddedNul) ∧
      StopsAt world "d" (run ("--json" :: paths) world) ∧
      (run ("--json" :: paths) world).stderr = "cannot read d: Is a directory\n" := by
  intro tree world paths
  have ha : world.files "a" = .ok [60, 112, 62] := rfl
  have hd : world.files "d" = .error (.refused "Is a directory") := rfl
  have hnul : ∀ path ∈ paths, world.files path ≠ .error .embeddedNul := by
    intro path hpath herror
    have hmem := (tree.fileSystem_eq_embeddedNul_iff path).mp herror
    clear herror
    revert path
    decide
  have hread : world.files.canRead "a" = true := by
    rw [FileSystem.canRead, ha]
    rfl
  have hunreadable : world.files.canRead "d" = false :=
    FileSystem.canRead_eq_false_iff.mpr ⟨_, hd⟩
  obtain ⟨settings, hsettings, hlevel⟩ : ∃ settings,
      Settings.load ⟨[], [], []⟩ = .ok settings ∧ LogLevel.parse settings.logLevel = .ok ⟨20⟩ :=
    ⟨_, rfl, rfl⟩
  have hargv : parse ("--json" :: paths) = .ok (.run ⟨true, paths⟩) := rfl
  obtain ⟨path, hfirst, hstops⟩ := run_stops_at_first_unreadable hsettings hlevel hargv hnul
    ⟨"d", by simp [paths], hunreadable⟩
  obtain rfl : "d" = path := by simpa [paths, hread, hunreadable] using hfirst
  refine ⟨⟨ha, hd, hnul⟩, hstops, ?_⟩
  rcases hstops.stderr with ⟨hmissing, -⟩ | ⟨reason, hreason, hstderr⟩
  · rw [hd] at hmissing
    cases hmissing
  · rw [hd] at hreason
    cases hreason
    rw [hstderr]
    rfl

end Command

end MailMarkup
