/-
  MapTheme.Proofs.Build.Publication — which of the compiled themes a run leaves in its output.

  What compiles has a valid id, and a valid id with `.json` is a plain name; so the layers are written to one folder
  and the themes to another, each to the file of its id, and the last one written to a file stays. Nothing keeps two
  files of the input from holding themes of one id. The output has every theme that compiles exactly if their ids
  differ (`run_publishes_iff`).
-/

import MapTheme.Proofs.Build.Closure
import MapTheme.Proofs.Build.Compilation
import MapTheme.Proofs.Files.Basic
import MapTheme.Proofs.Theme.Frame

namespace MapTheme.Build

/-- The name of the file for what has this id. -/
def fileName (id : String) : String := id ++ ".json"

theorem fileName_injective : Function.Injective fileName := by
  intro a b h
  have htext : a.toList ++ ".json".toList = b.toList ++ ".json".toList := by
    rw [← String.toList_append, ← String.toList_append]
    exact congrArg String.toList h
  exact String.toList_inj.mp (List.append_cancel_right htext)

theorem plain_fileName {id : String} (h : Config.isValidId id = true) : Path.Plain (fileName id) := by
  have hlength : (fileName id).length = id.length + 5 := String.length_append _ _
  refine ⟨?_, ?_, ?_, ?_⟩
  · intro hslash
    rw [fileName, String.toList_append] at hslash
    rcases List.mem_append.mp hslash with hslash | hslash
    · have hbounds := Theme.bounds_of_isValidId h hslash
      revert hbounds
      decide
    · revert hslash
      decide
  · intro he
    rw [he] at hlength
    simp at hlength
  · intro he
    rw [he] at hlength
    have hone : ".".length = 1 := rfl
    omega
  · intro he
    rw [he] at hlength
    have htwo : "..".length = 2 := rfl
    omega

variable {authored : Library} {sources : List Source}

theorem isValidId_of_mem_compiledLayers (hauth : authored.Distinct) (hsources : ∀ s ∈ sources, s.document.Distinct) :
    ∀ f ∈ compiledLayers authored sources, Config.isValidId f.1 = true := by
  intro f hf
  obtain ⟨c, hc, he⟩ := List.mem_filterMap.mp (Registry.mem_of_mem_ofList f hf)
  obtain ⟨s, hs, rfl⟩ := List.mem_map.mp hc
  obtain ⟨layer, hlayer, rfl⟩ := Option.map_eq_some_iff.mp he
  have hid := id?_compileLayer hauth (hsources s hs) hlayer
  obtain ⟨l, hl, -⟩ := Layer.exists_sound_of_isOk ((compileLayer_valid hauth (hsources s hs) hlayer).2 "")
  have hbuilds : Theme.builds layer = true := by
    rw [Theme.builds, hl]
    rfl
  rw [id_compileLayer]
  exact Theme.isValidId_of_builds hbuilds hid

/-! ## Writing -/

variable {files written : Files} {job : Job} {report : Report} {folder : String}

theorem addFolder_eq_ok (h : addFolder folder files = .ok written) :
    written = { files with folders := Path.ofText folder :: files.folders } := by
  unfold addFolder Files.addFolder? at h
  split at h
  · rename_i hadded
    split at hadded
    · cases hadded
    · cases hadded
      exact (Except.ok.inj h).symm
  · cases h

/-- The files for documents by their ids. -/
def filesFor (folder : Path) (docs : List (String × Document)) : List (Path × String) :=
  docs.map fun f => (folder ++ [fileName f.1], f.2.pretty)

theorem writeAll_eq_ok {docs : List (String × Document)} (hids : ∀ f ∈ docs, Config.isValidId f.1 = true)
    (h : writeAll folder docs files = .ok written) :
    written = files.insertAll (filesFor (Path.ofText folder) docs) := by
  induction docs generalizing files with
  | nil => exact (Except.ok.inj h).symm
  | cons f rest ih =>
    obtain ⟨id, d⟩ := f
    obtain ⟨hid, hrest⟩ := List.forall_mem_cons.mp hids
    have hpath : Path.ofText (Path.joinTexts folder (id ++ ".json")) = Path.ofText folder ++ [fileName id] :=
      Path.ofText_joinTexts folder (plain_fileName hid)
    rw [writeAll, hpath] at h
    split at h
    · rename_i next hnext
      rw [ih hrest h, Files.write?_eq_some hnext]
      rfl
    · cases h

theorem lookup_filesFor (folder : Path) (docs : List (String × Document)) (id : String) :
    List.lookup (folder ++ [fileName id]) (filesFor folder docs) = (List.lookup id docs).map Document.pretty := by
  induction docs with
  | nil => rfl
  | cons f rest ih =>
    obtain ⟨key, d⟩ := f
    have hkey : (folder ++ [fileName id] == folder ++ [fileName key]) = (id == key) := by
      rw [Bool.eq_iff_iff, beq_iff_eq, beq_iff_eq, List.append_cancel_left_eq, List.singleton_inj]
      exact fileName_injective.eq_iff
    have hcons : filesFor folder ((key, d) :: rest) = (folder ++ [fileName key], d.pretty) :: filesFor folder rest := rfl
    rw [hcons, List.lookup_cons, List.lookup_cons, hkey, ih]
    cases id == key with
    | true => rfl
    | false => rfl

theorem reverse_filesFor (folder : Path) (docs : List (String × Document)) :
    (filesFor folder docs).reverse = filesFor folder docs.reverse := List.map_reverse.symm

/-! ## The output of a run -/

namespace Job

def outputPath (job : Job) : Path := Path.ofText job.output

/-- Where the theme of this id is written. -/
def themePath (job : Job) (id : String) : Path := Path.ofText (Path.joinTexts job.themesFolder (fileName id))

theorem ofText_layersFolder (job : Job) : Path.ofText job.layersFolder = job.outputPath ++ ["layers"] :=
  Path.ofText_joinTexts job.output ⟨by decide, by decide, by decide, by decide⟩

theorem ofText_themesFolder (job : Job) : Path.ofText job.themesFolder = job.outputPath ++ ["themes"] :=
  Path.ofText_joinTexts job.output ⟨by decide, by decide, by decide, by decide⟩

theorem themePath_eq (job : Job) {id : String} (h : Config.isValidId id = true) :
    job.themePath id = Path.ofText job.themesFolder ++ [fileName id] :=
  Path.ofText_joinTexts job.themesFolder (plain_fileName h)

end Job

/-- The documents that a run reads at first have distinct keys. -/
theorem distinct_of_readInputs {i : Inputs} (h : readInputs files job = .ok i) :
    (∀ s ∈ i.layers, s.document.Distinct) ∧ ∀ f ∈ i.renderings, f.2.Distinct := by
  obtain ⟨settings, -, h⟩ := ok_of_bind h
  obtain ⟨renderings, hrenderings, h⟩ := ok_of_bind h
  obtain ⟨layers, hlayers, h⟩ := ok_of_bind h
  cases h
  refine ⟨distinct_of_readSources hlayers, ?_⟩
  unfold Job.readRenderings at hrenderings
  split at hrenderings
  · exact distinct_of_readRenderings hrenderings
  · cases hrenderings
    simp

namespace Compilation

variable (a : Compilation files job)

theorem authored_distinct : a.inputs.authored.Distinct :=
  distinct_authored (distinct_of_readInputs a.inputs_read).1 (distinct_of_readInputs a.inputs_read).2

theorem library_distinct : (a.inputs.library a.themes).Distinct := by
  obtain ⟨hlayers, hrenderings⟩ := distinct_of_readInputs a.inputs_read
  exact ⟨(sound_compiledLayers a.authored_distinct hlayers).distinct, hrenderings⟩

theorem isValidId_published : ∀ p ∈ a.published, Config.isValidId p.1.id = true := by
  intro p hp
  obtain ⟨⟨s, c⟩, ho, he⟩ := List.mem_filterMap.mp hp
  obtain ⟨theme, htheme, rfl⟩ := Option.map_eq_some_iff.mp he
  obtain ⟨⟨hs, -⟩, rfl⟩ := mem_outcomes_iff.mp ho
  have hdistinct := distinct_of_readSources a.themes_read s hs
  obtain ⟨id, hid, hvalid⟩ := Theme.isValidId_of_prepareTheme a.library_distinct hdistinct (result_compileTheme htheme)
  rw [Source.id, hid]
  exact hvalid

theorem isValidId_writes : ∀ f ∈ a.writes, Config.isValidId f.1 = true := by
  intro f hf
  obtain ⟨p, hp, rfl⟩ := List.mem_map.mp hf
  exact a.isValidId_published p hp

/-- Nothing is in the folder of the themes before they are written. -/
theorem below_tree (hempty : (files.list? job.outputPath).getD [] = []) :
    Path.ofText job.themesFolder ∈ a.tree.folders ∧ ∀ name, name ∉ a.tree.below (Path.ofText job.themesFolder) := by
  obtain ⟨made, hmade, h⟩ := ok_of_bind a.layers_written
  obtain ⟨made', hmade', h⟩ := ok_of_bind h
  have hids := isValidId_of_mem_compiledLayers a.authored_distinct (distinct_of_readInputs a.inputs_read).1
  have htree := writeAll_eq_ok hids h
  have hadded := addFolder_eq_ok hmade
  have hadded' := addFolder_eq_ok hmade'
  subst hadded hadded'
  rw [htree, Files.folders_insertAll]
  refine ⟨List.mem_cons_self, fun name hname => ?_⟩
  rw [Job.ofText_themesFolder, Job.ofText_layersFolder] at hname
  rcases Files.mem_below_insertAll _ |>.mp hname with hname | ⟨f, hf, hname⟩
  · obtain ⟨p, hp, hname⟩ := Files.mem_below.mp hname
    rw [List.mem_cons, List.mem_cons, or_left_comm, or_left_comm (b := p = _)] at hp
    rcases hp with rfl | rfl | hp
    · rw [Files.childOf?_self] at hname
      cases hname
    · rw [Files.childOf?_of_ne (by decide)] at hname
      cases hname
    · rw [Files.childOf?_append_eq_none (Files.childOf?_eq_none_of_empty hempty hp)] at hname
      cases hname
  · obtain ⟨l, -, rfl⟩ := List.mem_map.mp hf
    rw [List.append_assoc, List.singleton_append, Files.childOf?_of_ne (by decide)] at hname
    cases hname

end Compilation

/-- The names in the folder of the themes are those of the ids of the themes that compile. -/
theorem list?_of_run {a : Compilation files job} (hempty : (files.list? job.outputPath).getD [] = [])
    (hwritten : writeAll job.themesFolder a.writes a.tree = .ok written) :
    written.list? (Path.ofText job.themesFolder) = some (sortedIds (a.ids.map fileName)) := by
  obtain ⟨hfolder, hbelow⟩ := a.below_tree hempty
  have htree := writeAll_eq_ok a.isValidId_writes hwritten
  have hmem : Path.ofText job.themesFolder ∈ written.folders := by
    rw [htree, Files.folders_insertAll]
    exact hfolder
  rw [Files.list?_of_mem_folders hmem]
  refine congrArg some (sortedIds_congr fun name => ?_)
  rw [htree, Files.mem_below_insertAll, or_iff_right (hbelow name), List.mem_map]
  constructor
  · rintro ⟨f, hf, hname⟩
    obtain ⟨w, hw, rfl⟩ := List.mem_map.mp hf
    obtain ⟨p, hp, rfl⟩ := List.mem_map.mp hw
    rw [Files.childOf?_append] at hname
    exact ⟨p.1.id, List.mem_map_of_mem hp, Option.some.inj hname⟩
  · rintro ⟨id, hid, rfl⟩
    obtain ⟨p, hp, rfl⟩ := List.mem_map.mp hid
    exact ⟨_, List.mem_map_of_mem (List.mem_map_of_mem hp), Files.childOf?_append _ _ []⟩

/-- The last theme that compiles under an id is what its file holds. -/
theorem read?_of_run {a : Compilation files job} (hwritten : writeAll job.themesFolder a.writes a.tree = .ok written)
    {p : Source × Document} (hp : p ∈ a.published) :
    written.read? (job.themePath p.1.id) = (List.lookup p.1.id a.writes.reverse).map Document.pretty := by
  have hkey : p.1.id ∈ Fields.keys a.writes.reverse := by
    rw [Fields.keys, List.map_reverse, List.mem_reverse]
    exact List.mem_map_of_mem (List.mem_map_of_mem hp)
  have hsome : (List.lookup p.1.id a.writes.reverse).isSome = true := Fields.isSome_get?_iff.mpr hkey
  obtain ⟨d, hd⟩ := Option.isSome_iff_exists.mp hsome
  rw [writeAll_eq_ok a.isValidId_writes hwritten, Files.read?_insertAll, reverse_filesFor,
    Job.themePath_eq job (a.isValidId_published p hp), lookup_filesFor, hd]
  rfl

/-- A run with an output that is empty at first leaves there one file for each id under which themes compile, with the
last of these themes. So as many files as themes that compile, and each of these themes, exactly if their ids differ. -/
theorem run_publishes_iff (h : run files job = .ok report) (hempty : (files.list? job.outputPath).getD [] = []) :
    ∃ a : Compilation files job, report = a.report report.files ∧
      report.files.list? (Path.ofText job.themesFolder) = some (sortedIds (a.ids.map fileName)) ∧
      (∀ p ∈ a.published,
        report.files.read? (job.themePath p.1.id) = (List.lookup p.1.id a.writes.reverse).map Document.pretty) ∧
      (((report.files.list? (Path.ofText job.themesFolder)).map List.length = some report.summary.themesCompiled ∧
          ∀ p ∈ a.published, report.files.read? (job.themePath p.1.id) = some p.2.pretty) ↔
        a.ids.Nodup) := by
  obtain ⟨a, written, hwritten, rfl⟩ := run_eq_ok_iff.mp h
  have hlist := list?_of_run hempty hwritten
  have hread : ∀ p ∈ a.published, written.read? (job.themePath p.1.id) =
      (List.lookup p.1.id a.writes.reverse).map Document.pretty := fun p hp => read?_of_run hwritten hp
  have hcount : (a.report written).summary.themesCompiled = (a.ids.map fileName).length := by
    rw [a.themesCompiled_report, Compilation.writes, Compilation.ids, List.length_map, List.length_map, List.length_map]
  refine ⟨a, rfl, hlist, hread, ?_⟩
  show ((written.list? _).map List.length = _ ∧ ∀ p ∈ a.published, written.read? _ = _) ↔ _
  rw [hcount, hlist, Option.map_some, Option.some_inj, length_sortedIds_eq_iff, List.nodup_map_iff fileName_injective]
  refine and_iff_left_of_imp fun hnodup p hp => ?_
  rw [← a.keys_writes] at hnodup
  have hkeys : (Fields.keys a.writes.reverse).Nodup := by
    rw [Fields.keys, List.map_reverse, List.nodup_reverse]
    exact hnodup
  have hlast : List.lookup p.1.id a.writes.reverse = some p.2 :=
    (Fields.get?_eq_some_iff_mem hkeys).mpr (List.mem_reverse.mpr (List.mem_map_of_mem hp))
  rw [hread p hp, hlast, Option.map_some]

def treesText : String :=
  "\x7b\"id\":\"trees\",\"title\":\"Trees\",\"layers\":[\x7b\"id\":\"tree\",\"source\":\x7b\"osmTags\":\"natural=tree\"\x7d\x7d]\x7d"

/-- Themes of different ids are both there. -/
theorem run_publishes_iff_trees :
    ∃ report, run (twoThemes benchesText treesText) (twoThemesJob []) = .ok report ∧
      ((twoThemes benchesText treesText).list? (twoThemesJob []).outputPath).getD [] = [] ∧
      ∃ a : Compilation (twoThemes benchesText treesText) (twoThemesJob []), report = a.report report.files ∧
        a.ids = ["benches", "trees"] ∧
        ∀ p ∈ a.published, report.files.read? ((twoThemesJob []).themePath p.1.id) = some p.2.pretty := by
  obtain ⟨hbenches, htrees, hids, hwrite, hempty⟩ :
      (Document.read? benchesText).isSome = true ∧ (Document.read? treesText).isSome = true ∧
        Fields.keys (twoResults benchesText treesText) = ["benches", "trees"] ∧
        (writeAll (twoThemesJob []).themesFolder (twoResults benchesText treesText)
          (withOutput benchesText treesText)).isOk = true ∧
        ((twoThemes benchesText treesText).list? (twoThemesJob []).outputPath).getD [] = [] := by decide +kernel
  obtain ⟨a, written, hrun, hwrites, -⟩ := exists_run_twoThemes hbenches htrees hwrite
  obtain ⟨b, hreport, -, -, hall⟩ := run_publishes_iff hrun hempty
  obtain rfl : a = b := Subsingleton.elim a b
  rw [← hwrites, a.keys_writes] at hids
  have hnodup : a.ids.Nodup := by
    rw [hids]
    decide
  exact ⟨a.report written, hrun, hempty, a, rfl, hids, (hall.mpr hnodup).2⟩

/-- A second theme of the id. -/
def moreText : String :=
  "\x7b\"id\":\"benches\",\"title\":\"More\",\"layers\":[\x7b\"id\":\"seat\",\"source\":\x7b\"osmTags\":\"bench=yes\"\x7d\x7d]\x7d"

/-- Of two files with themes of one id both compile, but only one theme is there, not that of the first file. -/
theorem run_loses_theme :
    ((twoThemes benchesText moreText).list? (twoThemesJob []).outputPath).getD [] = [] ∧
    ∃ (a : Compilation (twoThemes benchesText moreText) (twoThemesJob [])) (report : Report),
      run (twoThemes benchesText moreText) (twoThemesJob []) = .ok report ∧ report = a.report report.files ∧
      report.summary.themesCompiled = 2 ∧
      report.files.list? (Path.ofText (twoThemesJob []).themesFolder) = some ["benches.json"] ∧
      ∃ p ∈ a.published, report.files.read? ((twoThemesJob []).themePath p.1.id) ≠ some p.2.pretty := by
  obtain ⟨hbenches, hmore, hids, htexts, hwrite, hempty⟩ :
      (Document.read? benchesText).isSome = true ∧ (Document.read? moreText).isSome = true ∧
        Fields.keys (twoResults benchesText moreText) = ["benches", "benches"] ∧
        ((twoResults benchesText moreText).map (·.2.pretty)).Nodup ∧
        (writeAll (twoThemesJob []).themesFolder (twoResults benchesText moreText)
          (withOutput benchesText moreText)).isOk = true ∧
        ((twoThemes benchesText moreText).list? (twoThemesJob []).outputPath).getD [] = [] := by decide +kernel
  obtain ⟨a, written, hrun, hwrites, hwritten⟩ := exists_run_twoThemes hbenches hmore hwrite
  rw [← hwrites] at hids htexts
  have hcount : (a.report written).summary.themesCompiled = 2 := by
    rw [a.themesCompiled_report, ← List.length_map (·.1)]
    exact congrArg List.length hids
  have hlist : written.list? (Path.ofText (twoThemesJob []).themesFolder) = some ["benches.json"] := by
    have hnames : a.ids.map fileName = ["benches.json", "benches.json"] := by
      rw [← a.keys_writes, hids]
      decide
    have honce : sortedIds ["benches.json", "benches.json"] = sortedIds ["benches.json"] :=
      sortedIds_congr fun id => by simp
    rw [list?_of_run hempty hwritten, hnames, honce, sortedIds, List.mergeSort_singleton]
    rfl
  -- What is written first is the theme of the first file, and the other one is what is read.
  obtain ⟨first, rest, hsplit, hfirst, hrest⟩ := List.map_eq_cons_iff.mp hids
  obtain ⟨last, none, rfl, hlast, hnone⟩ := List.map_eq_cons_iff.mp hrest
  obtain rfl := List.map_eq_nil_iff.mp hnone
  obtain ⟨p, hp, rfl⟩ := List.mem_map.mp (hsplit ▸ List.mem_cons_self : first ∈ a.writes)
  have hread := read?_of_run hwritten hp
  have hid : p.1.id = "benches" := hfirst
  have hlookup : List.lookup p.1.id [last, (p.1.id, p.2)] = some last.2 := by
    rw [List.lookup_cons, hlast, hid]
    rfl
  have hne : p.2.pretty ≠ last.2.pretty := by
    rw [hsplit] at htexts
    simpa using htexts
  refine ⟨hempty, a, a.report written, hrun, rfl, hcount, hlist, p, hp, ?_⟩
  show written.read? _ ≠ _
  rw [hread, hsplit, List.reverse_cons, List.reverse_singleton, List.singleton_append, hlookup, Option.map_some]
  exact fun he => hne (Option.some.inj he).symm

end MapTheme.Build
