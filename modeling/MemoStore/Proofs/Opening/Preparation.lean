import MemoStore.Opening
import MemoStore.Proofs.Files.Ensuring
import MemoStore.Proofs.Text.Search
import MemoStore.Proofs.Text.Trimming

/-!
# The file that is prepared

The path of a SQLite file goes into a URL, and the file to prepare is read out of the URL again.
`prepare_configured` says when it is the same file: for every path that is no URL itself, has no
parameters, and in which `mode=memory` does not occur. That text is looked for in the whole URL,
so a file with it in its name is taken for a database in memory, and nothing is prepared.
-/

namespace MemoStore

open MemoStore.Address (beforeParameters preparedFile? sqliteRest?)
open MemoStore.Files (Disk Path)
open MemoStore.Text

variable {path : String} {settings : Settings}

/-! ## The URL of a path -/

namespace Settings

/-- Settings for the SQLite file at a path: made for it, or read from variables that name it and no
URL. -/
inductive ForFile (path : String) : Settings → Prop where
  | sqlite : ForFile path (.sqlite path)
  | ofLookup {lookup : String → Option String} (named : lookup "SQLITE_PATH" = some path)
      (noUrl : ∀ url, lookup "DATABASE_URL" = some url → trim url.toList = []) :
      ForFile path (.ofLookup lookup)

/-- The path of such settings is the given one. -/
theorem ForFile.path_eq (forFile : settings.ForFile path) : settings.sqlitePath = path := by
  cases forFile with
  | sqlite => rfl
  | ofLookup named noUrl => exact congrArg (Option.getD · defaultPath) named

/-- Such settings name no URL. -/
theorem ForFile.noUrl (forFile : settings.ForFile path) : settings.databaseUrl = none := by
  cases forFile with
  | sqlite => rfl
  | ofLookup named noUrl =>
      refine Option.filter_eq_none_iff.mpr fun url given => ?_
      simp [noUrl url given]

/-- Without a URL, a path that is one is taken as it is, and another is put into one. -/
theorem toList_url (noUrl : settings.databaseUrl = none) :
    settings.url.toList =
      if "sqlite:".toList <+: trim settings.sqlitePath.toList then trim settings.sqlitePath.toList
      else "sqlite://".toList ++ trim settings.sqlitePath.toList := by
  unfold url
  simp only [noUrl, List.isPrefixOf_iff_prefix]
  split <;> rw [String.toList_ofList]

/-- A URL of a SQLite file has no blanks around it. -/
theorem trim_url (noUrl : settings.databaseUrl = none) :
    trim settings.url.toList = settings.url.toList := by
  have closing : ∀ c ∈ (trim settings.sqlitePath.toList).getLast?, isBlank c = false :=
    fun c last => visible_of_trim last
  rw [toList_url noUrl]
  split
  · exact trim_eq_self (fun c first => visible_of_prefix_trim List.prefix_rfl first) closing
  · refine trim_eq_self (fun c first => ?_) (fun c last => ?_)
    · obtain rfl : 's' = c := Option.some.inj first
      decide
    · rw [List.getLast?_append] at last
      cases ends : (trim settings.sqlitePath.toList).getLast? with
      | none =>
          rw [ends] at last
          obtain rfl : '/' = c := Option.some.inj last
          decide
      | some d =>
          rw [ends] at last
          obtain rfl : d = c := Option.some.inj last
          exact closing d ends

/-- Without a URL of its own the settings name a database of SQLite. -/
theorem sqlite_prefix_url (noUrl : settings.databaseUrl = none) :
    "sqlite:".toList <+: settings.url.toList := by
  rw [toList_url noUrl]
  split
  · assumption
  · have slashes : "sqlite://".toList = "sqlite:".toList ++ "//".toList := by decide +kernel
    rw [slashes, List.append_assoc]
    exact List.prefix_append _ _

/-- The URL of a SQLite file is the URL of itself as a path. -/
theorem url_sqlite_url (noUrl : settings.databaseUrl = none) :
    (Settings.sqlite settings.url).url = settings.url := by
  have own : (Settings.sqlite settings.url).sqlitePath = settings.url := rfl
  have same : (Settings.sqlite settings.url).url.toList = _ := toList_url rfl
  rw [own, trim_url noUrl, if_pos (sqlite_prefix_url noUrl)] at same
  exact String.toList_inj.mp same

end Settings

namespace Opening

/-! ## The file of a URL -/

/-- Whether a text names a file and nothing more: it is no URL, it has no parameters, and it is not
the name of the database in memory. -/
structure IsFileName (name : List Char) : Prop where
  filled : name ≠ []
  noUrl : ¬ "sqlite:".toList <+: name
  noParameters : '?' ∉ name
  kept : name ≠ ":memory:".toList

instance (name : List Char) : Decidable (IsFileName name) :=
  decidable_of_iff
    (name ≠ [] ∧ ¬ "sqlite:".toList <+: name ∧ '?' ∉ name ∧ name ≠ ":memory:".toList)
    ⟨fun ⟨filled, noUrl, noParameters, kept⟩ => ⟨filled, noUrl, noParameters, kept⟩,
      fun plain => ⟨plain.filled, plain.noUrl, plain.noParameters, plain.kept⟩⟩

/-- The text that is taken for a sign of a database in memory does not reach into the name from the
scheme before it. -/
theorem infix_url_iff (name : List Char) :
    "mode=memory".toList <:+: "sqlite://".toList ++ name ↔ "mode=memory".toList <:+: name := by
  have slashed : "sqlite://".toList ++ name = "sqlite:/".toList ++ '/' :: name := by
    simp only [String.reduceToList, List.cons_append, List.nil_append]
  constructor
  · intro occurring
    rw [slashed] at occurring
    rcases infix_append_cons (by decide +kernel) occurring with scheme | inside
    · exact absurd scheme (by decide +kernel)
    · exact inside
  · exact fun inside => inside.trans (List.suffix_append _ _).isInfix

/-- The file to prepare for a name is the file of that name, unless the name looks like a wish for
a database in memory. -/
theorem preparedFile?_url (forFile : settings.ForFile path)
    (plain : IsFileName (trim path.toList)) :
    preparedFile? settings.url =
      if occurs "mode=memory".toList (trim path.toList) then none else some (trimmed path) := by
  have url : settings.url.toList = "sqlite://".toList ++ trim path.toList := by
    rw [Settings.toList_url forFile.noUrl, forFile.path_eq, if_neg plain.noUrl]
  have rest : sqliteRest? settings.url.toList = some (trim path.toList) := by
    rw [url, sqliteRest?, after?_append, Option.some_or]
  have whole : beforeParameters (trim path.toList) = trim path.toList := by
    refine List.takeWhile_eq_self_iff.mpr fun c member => ?_
    have other : c ≠ '?' := fun mark => plain.noParameters (mark ▸ member)
    simpa using other
  have wish : occurs "mode=memory".toList settings.url.toList =
      occurs "mode=memory".toList (trim path.toList) := by
    rw [url, Bool.eq_iff_iff, occurs_iff, occurs_iff, infix_url_iff]
  unfold preparedFile?
  simp only [rest, Option.bind_some, whole, wish, List.isEmpty_iff, plain.filled, plain.kept,
    Bool.or_eq_true, decide_eq_true_eq, false_or, trimmed]

/-- What settings without a URL make of their path: a URL that is in turn a path of which settings
make the same URL. For the path of a file, the file that is prepared is this one: it and the folders
above it are all that is made, and they are made exactly if nothing is in the way. Only a path with
`mode=memory` in it is taken for that of a database in memory. -/
theorem prepare_configured (settings : Settings) (noUrl : settings.databaseUrl = none) :
    (Settings.sqlite settings.url).url = settings.url ∧
    ∀ path : String, settings.ForFile path → IsFileName (trim path.toList) →
      (¬ "mode=memory".toList <:+: trim path.toList →
        preparedFile? settings.url = some (trimmed path) ∧
          ∀ disk, disk.Ensured (Path.read (trimmed path)) (prepare disk settings.url) ∧
            (disk.Rooted → ((prepare disk settings.url).1 = .ok () ↔
              disk.Admits (Path.read (trimmed path))))) ∧
      ("mode=memory".toList <:+: trim path.toList →
        preparedFile? settings.url = none ∧ ∀ disk, prepare disk settings.url = (.ok (), disk)) := by
  refine ⟨Settings.url_sqlite_url noUrl, fun path forFile plain => ?_⟩
  have file := preparedFile?_url forFile plain
  constructor
  · intro noWish
    rw [if_neg ((occurs_iff _ _).not.mpr noWish)] at file
    have prepared (disk : Disk) :
        prepare disk settings.url = disk.ensureFile (Path.read (trimmed path)) := by
      simp only [prepare, file]
    refine ⟨file, fun disk => ?_⟩
    rw [prepared]
    exact ⟨disk.ensureFile_ensured _, fun rooted => Disk.ensureFile_ok_iff rooted _⟩
  · intro wish
    rw [if_pos ((occurs_iff _ _).mpr wish)] at file
    exact ⟨file, fun disk => by simp only [prepare, file]⟩

/-- A path in the environment, with blanks around it and a blank URL beside it, on an empty disk,
and the same for a file with the text of a wish in its name. -/
theorem prepare_configured_lookup :
    let lookup (path name : String) : Option String :=
      if name = "SQLITE_PATH" then some path else if name = "DATABASE_URL" then some " " else none
    let settings (path : String) := Settings.ofLookup (lookup path)
    (preparedFile? (settings " data/memo.db\n").url = some "data/memo.db" ∧
      (∃ content, Disk.entry? (prepare {} (settings " data/memo.db\n").url).2
        ["data", "memo.db"] = some (.file content)) ∧
      Disk.Admits {} (Path.read "data/memo.db")) ∧
    preparedFile? (settings "mode=memory.db").url = none ∧
    (Settings.sqlite (settings " data/memo.db\n").url).url = (settings " data/memo.db\n").url := by
  intro lookup settings
  have forFile (path : String) : (settings path).ForFile path := by
    refine .ofLookup rfl fun url given => ?_
    obtain rfl : " " = url := Option.some.inj given
    decide +kernel
  have rooted : Disk.Rooted {} := by
    refine ⟨rfl, fun {place entry} held => ?_⟩
    cases place with
    | nil => rfl
    | cons name inside => cases held
  have name : trimmed " data/memo.db\n" = "data/memo.db" := by decide +kernel
  obtain ⟨sameUrl, forPath⟩ := prepare_configured (settings " data/memo.db\n") (forFile _).noUrl
  obtain ⟨file, prepared⟩ := (forPath _ (forFile _) (by decide +kernel)).1 (by decide +kernel)
  obtain ⟨ensured, exactly⟩ := prepared {}
  have done : (prepare {} (settings " data/memo.db\n").url).1 = .ok () := by decide +kernel
  have destination : (Path.read "data/memo.db").destination [] = ["data", "memo.db"] := by
    decide +kernel
  obtain ⟨content, there⟩ := ensured.file done
  obtain ⟨-, forName⟩ := prepare_configured (settings "mode=memory.db") (forFile _).noUrl
  obtain ⟨unprepared, -⟩ := (forName _ (forFile _) (by decide +kernel)).2 (by decide +kernel)
  rw [name] at file exactly there
  rw [destination] at there
  exact ⟨⟨file, ⟨content, there⟩, (exactly rooted).mp done⟩, unprepared, sameUrl⟩

/-- A file with the text of a wish in its name is not prepared, and so it cannot be opened where it
is missing, because the engine takes the name for that of a file. -/
theorem prepare_wishful_name :
    ¬ (∀ path : String, IsFileName (trim path.toList) →
      preparedFile? (Settings.sqlite path).url = some (trimmed path)) ∧
    (match (connect (.sqlite "mode=memory.db") {}).result with
      | .ok _ => none
      | .error obstacle => some obstacle.message) =
    some ("database error: Connection Error: error returned from database: (code: 14) " ++
      "unable to open database file") := by
  constructor
  · intro prepared
    have file := prepared "mode=memory.db" (by decide +kernel)
    exact absurd file (by decide +kernel)
  · decide +kernel

end Opening

end MemoStore
