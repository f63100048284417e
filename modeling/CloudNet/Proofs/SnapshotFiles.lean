import CloudNet.Proofs.Building
import CloudNet.Proofs.SnapshotForms
import CloudNet.Snapshot.File

/-!
# Snapshots are lossless

A model that is written into a directory and read back from the file is the same model, whatever is
in it. The text of the snapshot reads as the model, since the form of a model keeps it, and the file
is the one that its path leads to.

* `NetworkModel.ofSnapshot_toSnapshot`: the text of a snapshot reads as the model.
* `Directory.locate?_join`: a name leads on from the directory that a path leads to.
* `Directory.read_of_write`: what is written is read back.
* `Directory.snapshot_lossless`: a model that is written into a directory is read back.
-/

namespace CloudNet

/-! ## Texts -/

/-- **The text of a snapshot reads as the model**, if its positions have 64 bits. -/
theorem NetworkModel.ofSnapshot_toSnapshot {m : NetworkModel} (h : Fits m.positions) :
    ofSnapshot m.toSnapshot = .ok m := by
  have hkeeps := m.keeps_form h
  unfold ofSnapshot toSnapshot
  rw [hkeeps.plain.ofText?_pretty, Option.bind_some, hkeeps.reads]

/-- The bytes of a text are those of that text only. -/
theorem fromUTF8?_toUTF8 (s : String) : String.fromUTF8? s.toUTF8 = some s := by
  unfold String.fromUTF8?
  exact dif_pos s.isValidUTF8

/-! ## Names of snapshot files -/

namespace Day

theorem toList_padded (width n : Nat) : (padded width n).toList =
    List.replicate (width - (Text.decimal n).length) '0' ++ (Text.decimal n).toList := by
  unfold padded
  rw [String.toList_append, String.toList_ofList]

theorem isDigit_of_mem_padded {width n : Nat} {c : Char} (h : c ∈ (padded width n).toList) :
    Text.isDigit c = true := by
  rw [toList_padded] at h
  rcases List.mem_append.1 h with h | h
  · rw [List.eq_of_mem_replicate h]
    decide
  · exact Text.isDigit_of_mem_decimal h

theorem toList_snapshotName (d : Day) : d.snapshotName.toList =
    "gni_model_".toList ++ ((padded 4 d.year).toList ++ ("-".toList ++ ((padded 2 d.month).toList ++
      ("-".toList ++ ((padded 2 d.day).toList ++ ".json".toList))))) := by
  have hname : d.snapshotName = "gni_model_" ++ padded 4 d.year ++ "-" ++ padded 2 d.month ++ "-" ++
      padded 2 d.day ++ ".json" := rfl
  simp only [hname, String.toList_append, List.append_assoc]

/-- The name of a snapshot file is the name of one place. -/
theorem notMem_snapshotName (d : Day) : '/' ∉ d.snapshotName.toList := by
  have hdigits : ∀ width n, '/' ∉ (padded width n).toList := fun _ _ h =>
    absurd (isDigit_of_mem_padded h) (by decide)
  simp [toList_snapshotName, hdigits]

/-- No name that means something else in a path is the name of a snapshot file. -/
theorem snapshotName_ne (d : Day) {name : String} (h : name.toList.head? ≠ some 'g') :
    d.snapshotName ≠ name := by
  rintro rfl
  rw [toList_snapshotName] at h
  exact h rfl

end Day

/-! ## Paths -/

namespace Directory

variable {d : Directory} {path name : String}

theorem follow_append (place : Place) (ns ns' : List String) :
    d.follow place (ns ++ ns') = (d.follow place ns).bind fun p => d.follow p ns' := by
  induction ns generalizing place with
  | nil => rfl
  | cons n ns ih =>
    simp only [List.cons_append, follow]
    split
    · rfl
    · split
      · exact ih place
      · split
        · split
          · rfl
          · exact ih place.dropLast
        · exact ih (place ++ [n])

/-- Nothing behind a slash leads from a directory to itself. -/
theorem follow_empty {place q : Place} (h : d.follow place [""] = some q) :
    d.isDirectory place = true := by
  unfold follow at h
  split at h
  · simp at h
  · next hdir => simpa using hdir

/-- A name leads from a directory to a place in it, unless it means something else. -/
theorem follow_name {place : Place} (h : d.isDirectory place = true)
    (hne : name ≠ "" ∧ name ≠ "." ∧ name ≠ "..") :
    d.follow place [name] = some (place ++ [name]) := by
  simp [follow, h, hne.1, hne.2.1, hne.2.2]

/-- A name behind a slash is the last name of a path. -/
theorem names_of_toList {before : List Char} (hpath : path.toList = before ++ '/' :: name.toList)
    (hname : '/' ∉ name.toList) :
    names path = (before.splitOnP (· = '/')).map String.ofList ++ [name] := by
  have hnone : ∀ c ∈ name.toList, decide (c = '/') = false := fun c hc =>
    decide_eq_false fun h => hname (h ▸ hc)
  unfold names
  rw [hpath, List.splitOnP_append_cons _ _ (by decide), List.splitOnP_eq_singleton hnone,
    List.map_append, List.map_singleton, String.ofList_toList]

/-- The name is put behind the path and a slash, which may be there already. -/
theorem toList_join (name : String) (hpath : path ≠ "") : ∃ before,
    (join path name).toList = before ++ '/' :: name.toList ∧
      (path.toList = before ∨ path.toList = before ++ '/' :: "".toList) := by
  unfold join
  by_cases hslash : path.toList.getLast? = some '/'
  · obtain ⟨before, hbefore⟩ := List.getLast?_eq_some_iff.1 hslash
    refine ⟨before, ?_, .inr hbefore⟩
    rw [if_pos (.inr hslash), String.toList_append, hbefore, List.append_assoc]
    rfl
  · refine ⟨path.toList, ?_, .inl rfl⟩
    rw [if_neg (by simp [hpath, hslash]), String.toList_append, String.toList_append,
      List.append_assoc]
    rfl

theorem locate?_eq (h : path ≠ "") :
    d.locate? path = (d.fromHere? (names path)).bind (d.follow []) := if_neg h

/-- A path from the root that has come to a location goes on from there. -/
theorem beyond_append {location ns left : List String} (h : beyond location ns = some left)
    (more : List String) : beyond location (ns ++ more) = some (left ++ more) := by
  fun_induction beyond location ns with
  | case1 ns => rw [← Option.some.inj h, beyond]
  | case2 step location => cases h
  | case3 step location name rest hstay ih =>
    rw [List.cons_append, beyond, if_pos hstay]
    exact ih h
  | case4 location name rest hstay ih =>
    rw [List.cons_append, beyond, if_neg hstay, if_pos rfl]
    exact ih h
  | case5 step location name rest hstay hne => cases h

/-- A slash at the end of a path from the root does not make it come to a location. -/
theorem beyond_append_empty (location ns : List String) :
    beyond location (ns ++ [""]) = (beyond location ns).map (· ++ [""]) := by
  fun_induction beyond location ns with
  | case1 ns => rw [beyond, Option.map_some]
  | case2 step location => rfl
  | case3 step location name rest hstay ih => rw [List.cons_append, beyond, if_pos hstay, ih]
  | case4 location name rest hstay ih =>
    rw [List.cons_append, beyond, if_neg hstay, if_pos rfl, ih]
  | case5 step location name rest hstay hne =>
    rw [List.cons_append, beyond, if_neg hstay, if_neg hne, Option.map_none]

/-- What follows in a path is followed from the directory as well. -/
theorem fromHere?_append {ns left : List String} (hne : ns ≠ []) (h : d.fromHere? ns = some left)
    (more : List String) : d.fromHere? (ns ++ more) = some (left ++ more) := by
  obtain ⟨first, rest, rfl⟩ := List.exists_cons_of_ne_nil hne
  by_cases hfirst : first = ""
  · subst hfirst
    obtain ⟨location, hlocation, hbeyond⟩ := Option.bind_eq_some_iff.1 h
    exact Option.bind_eq_some_iff.2 ⟨location, hlocation, beyond_append hbeyond more⟩
  · have hrelative : ∀ ns, d.fromHere? (first :: ns) = some (first :: ns) := fun ns => by
      simp [fromHere?, hfirst]
    rw [hrelative] at h
    rw [List.cons_append, hrelative, ← Option.some.inj h, List.cons_append]

/-- A slash at the end of a path stays at the end of what is followed. -/
theorem fromHere?_append_empty {ns : List String} (hne : ns ≠ []) :
    d.fromHere? (ns ++ [""]) = (d.fromHere? ns).map (· ++ [""]) := by
  obtain ⟨first, rest, rfl⟩ := List.exists_cons_of_ne_nil hne
  by_cases hfirst : first = ""
  · subst hfirst
    unfold fromHere?
    simp only [List.cons_append]
    cases d.location? with
    | none => rfl
    | some location => exact beyond_append_empty location rest
  · simp [fromHere?, hfirst]

/-- **A name leads on from the directory that a path leads to.** -/
theorem locate?_join (hd : d.hasDirectory path = true) (hname : '/' ∉ name.toList)
    (hne : name ≠ "" ∧ name ≠ "." ∧ name ≠ "..") :
    ∃ place, d.locate? (join path name) = some (place ++ [name]) := by
  obtain ⟨place, hplace, hdir⟩ := (Option.any_eq_true _ _).1 hd
  have hpath : path ≠ "" := by
    rintro rfl
    rw [locate?, if_pos rfl] at hplace
    cases hplace
  obtain ⟨before, hjoin, hbefore⟩ := toList_join name hpath
  have hjoined : join path name ≠ "" := fun h => by
    rw [h] at hjoin
    simp at hjoin
  have hns : (before.splitOnP (· = '/')).map String.ofList ≠ [] := by simp
  rw [locate?_eq hpath] at hplace
  -- a slash at the end of the path does not matter: the same names lead to the directory
  have hstart : ∃ left p,
      d.fromHere? ((before.splitOnP (· = '/')).map String.ofList) = some left ∧
        d.follow [] left = some p ∧ d.isDirectory p = true := by
    rcases hbefore with hbefore | hbefore
    · have hown : names path = (before.splitOnP (· = '/')).map String.ofList := by
        rw [names, hbefore]
      rw [hown] at hplace
      obtain ⟨left, hleft, hfollow⟩ := Option.bind_eq_some_iff.1 hplace
      exact ⟨left, place, hleft, hfollow, hdir⟩
    · rw [names_of_toList hbefore (by simp), fromHere?_append_empty hns] at hplace
      obtain ⟨ending, hending, hfollow⟩ := Option.bind_eq_some_iff.1 hplace
      obtain ⟨left, hleft, rfl⟩ := Option.map_eq_some_iff.1 hending
      rw [follow_append] at hfollow
      obtain ⟨p, hp, hempty⟩ := Option.bind_eq_some_iff.1 hfollow
      exact ⟨left, p, hleft, hp, follow_empty hempty⟩
  obtain ⟨left, p, hleft, hp, hpdir⟩ := hstart
  refine ⟨p, ?_⟩
  rw [locate?_eq hjoined, names_of_toList hjoin hname, fromHere?_append hns hleft,
    Option.bind_some, follow_append, hp, Option.bind_some, follow_name hpdir hne]

example : locate? { directories := [["snap"]], location? := some ["srv", "net"] }
    (join "/srv/./net/snap/" "model.json") = some ["snap", "model.json"] := by decide

/-! ## Files -/

/-- Where a path leads does not depend on what is in files. -/
theorem locate?_withFiles (files : List (Place × ByteArray)) :
    { d with files }.locate? path = d.locate? path := by
  have hfollow : ∀ place ns, { d with files }.follow place ns = d.follow place ns := by
    intro place ns
    induction ns generalizing place with
    | nil => rfl
    | cons n ns ih =>
      simp only [follow, ih]
      rfl
  have hfollows : { d with files }.follow [] = d.follow [] := funext (hfollow [])
  unfold locate?
  rw [hfollows]
  rfl

theorem filePlace_withFiles (files : List (Place × ByteArray)) :
    { d with files }.filePlace path = d.filePlace path := by
  unfold filePlace
  rw [locate?_withFiles]
  rfl

/-- **What is written is read back.** -/
theorem read_of_write {contents : ByteArray} {after : Directory}
    (h : d.write path contents = .ok after) : after.read path = .ok contents := by
  obtain ⟨place, hplace, rfl⟩ := map_eq_ok_iff.1 h
  unfold read
  rw [filePlace_withFiles, hplace]
  have hfound : ((place, contents) :: d.files.filter fun file => file.1 ≠ place).lookup place =
      some contents := List.lookup_cons_self
  simp only [bind, Except.bind, hfound]
  rfl

/-- A snapshot that was written is read back as the model. -/
theorem readSnapshot_of_writeSnapshot {m : NetworkModel} (hm : Fits m.positions) {today : Day}
    {file : String} {after : Directory} (h : d.writeSnapshot path today m = .ok (file, after)) :
    after.readSnapshot file = .ok m := by
  obtain ⟨written, hwrite, heq⟩ := map_eq_ok_iff.1 h
  obtain ⟨rfl, rfl⟩ := Prod.mk.inj heq
  unfold readSnapshot
  rw [read_of_write hwrite]
  simp only [bind, Except.bind, fromUTF8?_toUTF8]
  exact NetworkModel.ofSnapshot_toSnapshot hm

/-- A snapshot can be written into a directory, if no directory in it has the name of the file. -/
theorem exists_writeSnapshot (hd : d.hasDirectory path = true) {today : Day}
    (hfile : d.hasDirectory (join path today.snapshotName) = false) (m : NetworkModel) :
    ∃ file after, d.writeSnapshot path today m = .ok (file, after) := by
  obtain ⟨place, hplace⟩ := locate?_join hd today.notMem_snapshotName
    ⟨today.snapshotName_ne (by decide), today.snapshotName_ne (by decide),
      today.snapshotName_ne (by decide)⟩
  have hfree : d.isDirectory (place ++ [today.snapshotName]) = false := by
    simpa [hasDirectory, hplace] using hfile
  unfold writeSnapshot write filePlace
  simp only [hplace, hfree]
  exact ⟨_, _, rfl⟩

/-- **Snapshots are lossless.** A model whose positions have 64 bits can be written into every
directory in which no directory has the name of the file, and whenever it is written, reading the
file gives the model again. -/
theorem snapshot_lossless {m : NetworkModel} (hm : Fits m.positions) (today : Day)
    (hd : d.hasDirectory path = true) :
    (d.hasDirectory (join path today.snapshotName) = false →
      ∃ file after, d.writeSnapshot path today m = .ok (file, after)) ∧
    ∀ file after, d.writeSnapshot path today m = .ok (file, after) →
      after.readSnapshot file = .ok m :=
  ⟨fun hfile => exists_writeSnapshot hd hfile m, fun _ _ => readSnapshot_of_writeSnapshot hm⟩

/-- The small network of tenant networks is written and read back. -/
theorem snapshot_of_network : ∃ file after,
    writeSnapshot { directories := [["snap"]] } "snap" ⟨2024, 2, 29⟩ Sample.model =
      .ok (file, after) ∧ after.readSnapshot file = .ok Sample.model := by
  obtain ⟨hwrite, hread⟩ := snapshot_lossless (m := Sample.model) (by unfold Fits; decide)
    ⟨2024, 2, 29⟩ (show hasDirectory { directories := [["snap"]] } "snap" = true by decide)
  obtain ⟨file, after, h⟩ := hwrite (by decide)
  exact ⟨file, after, h, hread file after h⟩

end Directory

end CloudNet
