/-
ProxyClient/Proofs/Disk/Files.lean

Files that are written one after the other.  What is done to an open file
changes no other file and no name (`Disk.OnlyChanges`), so that paths lead
where they led before.

A file that is only ever written at its end has an image: the bytes on the
disk and behind them those in the buffer.

    image after write  =  image before ++ bytes
    image after flush  =  image before, all of it on the disk
-/
import ProxyClient.Disk.Stream

namespace ProxyClient

namespace Disk

variable {disk disk' disk'' : Disk} {id : FileId} {path : String}

/-! ### Contents -/

/-- The file exists. -/
def Has (disk : Disk) (id : FileId) : Prop :=
  id < disk.contents.length

theorem bytesOf_setBytes (has : disk.Has id) (bytes : Bytes) :
    (disk.setBytes id bytes).bytesOf id = bytes := by
  show ((disk.contents.set id bytes)[id]?).getD [] = bytes
  rw [List.getElem?_set_self has]
  rfl

theorem bytesOf_setBytes_of_ne {other : FileId} (different : other ≠ id) (bytes : Bytes) :
    (disk.setBytes id bytes).bytesOf other = disk.bytesOf other := by
  show ((disk.contents.set id bytes)[other]?).getD [] = _
  rw [List.getElem?_set_ne different.symm]
  rfl

/-- Bytes that are put where they are change nothing. -/
theorem setBytes_bytesOf (disk : Disk) (id : FileId) : disk.setBytes id (disk.bytesOf id) = disk := by
  obtain ⟨entries, contents⟩ := disk
  have same : contents.set id (contents[id]?.getD []) = contents := by
    rcases Nat.lt_or_ge id contents.length with inside | outside
    · rw [List.getElem?_eq_getElem inside]
      exact List.set_getElem_self inside
    · exact List.set_eq_of_length_le outside
  exact congrArg (Disk.mk entries) same

/-- A file that holds anything exists. -/
theorem has_of_bytesOf_ne_nil (h : disk.bytesOf id ≠ []) : disk.Has id := by
  rcases Nat.lt_or_ge id disk.contents.length with inside | outside
  · exact inside
  · rw [bytesOf, List.getElem?_eq_none outside] at h
    exact absurd rfl h

/-- Nothing but the bytes of one file may be different. -/
structure OnlyChanges (id : FileId) (disk disk' : Disk) : Prop where
  /-- All names are the same. -/
  entries_eq : disk'.entries = disk.entries
  /-- No file is new. -/
  length_eq : disk'.contents.length = disk.contents.length
  /-- All other files are the same. -/
  bytesOf_eq : ∀ other, other ≠ id → disk'.bytesOf other = disk.bytesOf other

theorem OnlyChanges.refl (id : FileId) (disk : Disk) : OnlyChanges id disk disk :=
  ⟨rfl, rfl, fun _ _ => rfl⟩

theorem OnlyChanges.trans (h : OnlyChanges id disk disk') (h' : OnlyChanges id disk' disk'') :
    OnlyChanges id disk disk'' :=
  ⟨h'.entries_eq.trans h.entries_eq, h'.length_eq.trans h.length_eq,
    fun other different => (h'.bytesOf_eq other different).trans (h.bytesOf_eq other different)⟩

theorem OnlyChanges.has_iff (h : OnlyChanges id disk disk') (other : FileId) :
    disk'.Has other ↔ disk.Has other := by
  unfold Has
  rw [h.length_eq]

theorem onlyChanges_setBytes (disk : Disk) (id : FileId) (bytes : Bytes) :
    OnlyChanges id disk (disk.setBytes id bytes) where
  entries_eq := rfl
  length_eq := List.length_set
  bytesOf_eq := fun _ different => bytesOf_setBytes_of_ne different bytes

theorem onlyChanges_setLength (disk : Disk) (id : FileId) (length : Nat) :
    OnlyChanges id disk (disk.setLength id length) :=
  onlyChanges_setBytes disk id _

/-- A file is cut off behind some of its bytes. -/
theorem bytesOf_setLength_of_append {front back : Bytes} (has : disk.Has id)
    (bytes : disk.bytesOf id = front ++ back) :
    (disk.setLength id front.length).bytesOf id = front := by
  show (disk.setBytes id _).bytesOf id = _
  rw [bytesOf_setBytes has, bytes, List.take_left' rfl, List.length_append,
    Nat.sub_eq_zero_of_le (Nat.le_add_right ..), List.replicate_zero, List.append_nil]

/-- What is written behind the last byte is appended. -/
theorem overwrite_length (old new : Bytes) : overwrite old old.length new = old ++ new := by
  rw [overwrite]
  split
  · next empty => rw [List.isEmpty_iff.mp empty, List.append_nil]
  · simp

/-- What is written behind a beginning leaves the beginning as it is. -/
theorem prefix_overwrite {front old : Bytes} {position : Nat} (begins : front <+: old)
    (behind : front.length ≤ position) (new : Bytes) : front <+: overwrite old position new := by
  rw [overwrite]
  split
  · exact begins
  · have kept : front <+: old.take position := List.prefix_take_iff.mpr ⟨begins, behind⟩
    simp only [List.append_assoc]
    exact kept.trans (List.prefix_append ..)

/-- So is one that is not cut off. -/
theorem prefix_setLength {front : Bytes} {length : Nat} (has : disk.Has id)
    (begins : front <+: disk.bytesOf id) (behind : front.length ≤ length) :
    front <+: (disk.setLength id length).bytesOf id := by
  show front <+: (disk.setBytes id _).bytesOf id
  rw [bytesOf_setBytes has]
  exact (List.prefix_take_iff.mpr ⟨begins, behind⟩).trans (List.prefix_append ..)

/-! ### Paths -/

theorem entryAt_congr (h : disk'.entries = disk.entries) : disk'.entryAt = disk.entryAt := by
  funext place name
  unfold entryAt
  rw [h]

theorem enter_congr (h : disk'.entries = disk.entries) : disk'.enter = disk.enter := by
  funext place name
  unfold enter
  rw [entryAt_congr h]

theorem walk_congr (h : disk'.entries = disk.entries) : disk'.walk = disk.walk := by
  funext path
  unfold walk
  rw [enter_congr h]

/-- Where the names are the same, paths lead to the same files. -/
theorem openFile_congr (h : disk'.entries = disk.entries) (path : String) :
    disk'.openFile path = disk.openFile path := by
  unfold openFile find
  rw [walk_congr h, entryAt_congr h]

/-- The bytes of the file at a path. -/
def bytesAt? (disk : Disk) (path : String) : Option Bytes :=
  match disk.openFile path with
  | .ok id => some (disk.bytesOf id)
  | .error _ => none

theorem bytesAt?_eq (found : disk.openFile path = .ok id) :
    disk.bytesAt? path = some (disk.bytesOf id) := by
  rw [bytesAt?, found]

theorem openFile_of_bytesAt? {bytes : Bytes} (h : disk.bytesAt? path = some bytes) :
    ∃ id, disk.openFile path = .ok id ∧ disk.bytesOf id = bytes := by
  rw [bytesAt?] at h
  split at h
  · next id found => exact ⟨id, found, Option.some.inj h⟩
  · contradiction

/-- Where only one file has changed, its path still leads to it. -/
theorem OnlyChanges.bytesAt?_eq (only : OnlyChanges id disk disk')
    (found : disk.openFile path = .ok id) : disk'.bytesAt? path = some (disk'.bytesOf id) :=
  Disk.bytesAt?_eq ((openFile_congr only.entries_eq path).trans found)

/-! ### Files that are created -/

/-- Names of files lead to files. -/
def IsSound (disk : Disk) : Prop :=
  ∀ place id, disk.entries.lookup place = some (.file id) → disk.Has id

/-- A new name, behind all others. -/
def withEntry (disk : Disk) (place : DiskPlace) (entry : DiskEntry) : Disk :=
  { disk with entries := disk.entries ++ [(place, entry)] }

/-- Every name of a disk stands for the same on another, which may have more. -/
def IsKnownTo (disk disk' : Disk) : Prop :=
  ∀ place entry, disk.entries.lookup place = some entry →
    disk'.entries.lookup place = some entry

theorem isKnownTo_withEntry (disk : Disk) (place : DiskPlace) (entry : DiskEntry) :
    disk.IsKnownTo (disk.withEntry place entry) := by
  intro other found there
  show (disk.entries ++ [(place, entry)]).lookup other = _
  rw [List.lookup_append, there]
  rfl

/-- More names stop nobody on the way to a directory. -/
theorem enter_of_known (known : disk.IsKnownTo disk') {start next : DiskPlace} {name : String}
    (h : disk.enter start name = .ok next) : disk'.enter start name = .ok next := by
  rw [enter, entryAt] at h ⊢
  split
  · -- the directory itself
    next point =>
    rw [if_pos point] at h
    exact h
  · next noPoint =>
    rw [if_neg noPoint] at h
    split
    · -- the one above
      next up =>
      rw [if_pos up] at h
      exact h
    · next noUp =>
      rw [if_neg noUp] at h
      split at h
      · contradiction
      · contradiction
      · contradiction
      · -- an entry, which the other disk has as well
        next there =>
        split at there
        · contradiction
        · next short =>
          rw [if_neg short, known _ _ (Except.ok.inj there)]
          exact h

theorem foldlM_enter_of_known (known : disk.IsKnownTo disk') {names : List String}
    {start last : DiskPlace} (h : names.foldlM disk.enter start = .ok last) :
    names.foldlM disk'.enter start = .ok last := by
  induction names generalizing start with
  | nil => exact h
  | cons name names ih =>
    rw [List.foldlM_cons] at h ⊢
    rcases e : disk.enter start name with e' | next <;> rw [e] at h
    · contradiction
    · rw [enter_of_known known e]
      exact ih h

theorem walk_of_known (known : disk.IsKnownTo disk') {destination : Destination}
    (h : disk.walk path = .ok destination) : disk'.walk path = .ok destination := by
  rw [walk] at h ⊢
  split at h
  · contradiction
  · next noZero =>
    split at h
    · contradiction
    · next nonempty =>
      split at h
      · contradiction
      · -- what is refused of the path itself is the same on every disk
        next short =>
        rw [if_neg noZero, if_neg nonempty, if_neg short]
        split at h
        · exact h
        · simp only at h ⊢
          split at h
          · contradiction
          · next directory walked =>
            simp only [foldlM_enter_of_known known walked]
            exact h

/-- A path that leads to a file leads to it also beside more names. -/
theorem openFile_of_known (known : disk.IsKnownTo disk') (h : disk.openFile path = .ok id) :
    disk'.openFile path = .ok id := by
  unfold openFile find at h ⊢
  rcases walked : disk.walk path with e | destination <;> rw [walked] at h
  · contradiction
  · rw [walk_of_known known walked]
    cases destination with
    | directory => contradiction
    | named spot name slash =>
      simp only [entryAt] at h ⊢
      by_cases long : nameLimit < name.utf8ByteSize
      · rw [if_pos long] at h
        contradiction
      · rw [if_neg long] at h ⊢
        rcases there : disk.entries.lookup (spot ++ [name]) with - | found <;> rw [there] at h
        · contradiction
        · rw [known _ _ there]
          exact h

/-- How a file comes to be at a path: it was there, or its name is new. -/
theorem createFile_cases (h : disk.createFile path = .ok (id, disk')) :
    ∃ place name, disk.walk path = .ok (.named place name false) ∧
      ¬ nameLimit < name.utf8ByteSize ∧
      (disk' = disk ∧ disk.entries.lookup (place ++ [name]) = some (.file id) ∨
        id = disk.contents.length ∧ disk.entries.lookup (place ++ [name]) = none ∧
          disk' = { disk.withEntry (place ++ [name]) (.file id) with
            contents := disk.contents ++ [[]] }) := by
  unfold createFile at h
  split at h
  · contradiction
  · contradiction
  · contradiction
  · next place name walked =>
    unfold entryAt at h
    split at h
    · contradiction
    · contradiction
    · -- the file is there
      next other found =>
      split at found
      · contradiction
      · next short =>
        obtain ⟨rfl, rfl⟩ := Prod.mk.inj (Except.ok.inj h)
        exact ⟨place, name, walked, short, .inl ⟨rfl, Except.ok.inj found⟩⟩
    · -- it is not, and the name is not too long
      next found =>
      split at found
      · contradiction
      · next short =>
        obtain ⟨rfl, rfl⟩ := Prod.mk.inj (Except.ok.inj h)
        exact ⟨place, name, walked, short, .inr ⟨rfl, Except.ok.inj found, rfl⟩⟩

/-- The path leads to a file that was created, be it an old one or a new one. -/
theorem find_of_createFile (h : disk.createFile path = .ok (id, disk')) :
    ∃ place, disk'.find path = .ok (place, id) ∧
      (disk' = disk ∨ id = disk.contents.length ∧ disk.entries.lookup place = none ∧
        disk' = { disk.withEntry place (.file id) with contents := disk.contents ++ [[]] }) := by
  obtain ⟨place, name, walked, short, ⟨rfl, there⟩ | ⟨rfl, free, rfl⟩⟩ := createFile_cases h
  · -- the file was there
    refine ⟨place ++ [name], ?_, .inl rfl⟩
    unfold find entryAt
    rw [walked]
    simp only [if_neg short, there]
    rfl
  · -- the walk to the directory does not see the new name
    have walked' : Disk.walk { disk.withEntry (place ++ [name]) (.file disk.contents.length) with
        contents := disk.contents ++ [[]] } path = .ok (.named place name false) := by
      have same : Disk.walk { disk.withEntry (place ++ [name]) (.file disk.contents.length) with
          contents := disk.contents ++ [[]] } =
          (disk.withEntry (place ++ [name]) (.file disk.contents.length)).walk := walk_congr rfl
      rw [same]
      exact walk_of_known (isKnownTo_withEntry disk _ _) walked
    have there : (disk.withEntry (place ++ [name]) (.file disk.contents.length)).entries.lookup
        (place ++ [name]) = some (.file disk.contents.length) := by
      show (disk.entries ++ _).lookup _ = _
      rw [List.lookup_append, free, Option.none_or]
      exact List.lookup_cons_self
    refine ⟨place ++ [name], ?_, .inr ⟨rfl, free, rfl⟩⟩
    rw [find]
    rw [walked']
    unfold entryAt
    simp only [if_neg short, there]
    rfl

theorem openFile_of_createFile (h : disk.createFile path = .ok (id, disk')) :
    disk'.openFile path = .ok id := by
  obtain ⟨place, found, -⟩ := find_of_createFile h
  rw [openFile, found]
  rfl

/-- Creating a file leaves the others where they are. -/
theorem openFile_createFile (h : disk.createFile path = .ok (id, disk')) {other : String}
    {found : FileId} (there : disk.openFile other = .ok found) :
    disk'.openFile other = .ok found := by
  obtain ⟨place, -, rfl | ⟨rfl, -, rfl⟩⟩ := find_of_createFile h
  · exact there
  · have sameNames : Disk.openFile { disk.withEntry place (.file disk.contents.length) with
        contents := disk.contents ++ [[]] } other =
        (disk.withEntry place (.file disk.contents.length)).openFile other :=
      openFile_congr rfl other
    exact sameNames.trans (openFile_of_known (isKnownTo_withEntry disk _ _) there)

/-- A file that was created exists. -/
theorem has_of_createFile (sound : disk.IsSound)
    (h : disk.createFile path = .ok (id, disk')) : disk'.Has id := by
  obtain ⟨place, name, -, -, ⟨rfl, there⟩ | ⟨rfl, -, rfl⟩⟩ := createFile_cases h
  · exact sound _ _ there
  · show disk.contents.length < (disk.contents ++ [[]]).length
    rw [List.length_append]
    exact Nat.lt_succ_self _

/-- So does one that was not there, or held anything. -/
theorem has_of_createFile_of_occupied
    (occupied : ∀ id, disk.openFile path = .ok id → disk.bytesOf id ≠ [])
    (h : disk.createFile path = .ok (id, disk')) : disk'.Has id := by
  have found := openFile_of_createFile h
  obtain ⟨place, -, rfl | ⟨rfl, -, rfl⟩⟩ := find_of_createFile h
  · exact has_of_bytesOf_ne_nil (occupied id found)
  · show disk.contents.length < (disk.contents ++ [[]]).length
    rw [List.length_append]
    exact Nat.lt_succ_self _

/-- Creating a file changes the bytes of none. -/
theorem bytesOf_createFile (h : disk.createFile path = .ok (id, disk')) (other : FileId) :
    disk'.bytesOf other = disk.bytesOf other := by
  obtain ⟨place, name, -, -, ⟨rfl, -⟩ | ⟨rfl, -, rfl⟩⟩ := createFile_cases h
  · rfl
  · show ((disk.contents ++ [[]])[other]?).getD [] = _
    rw [List.getElem?_append]
    split
    · rfl
    · next outside =>
      rw [bytesOf, List.getElem?_eq_none (Nat.le_of_not_lt outside)]
      cases other - disk.contents.length <;> rfl

/-- A file that is created was there, or there was none, and it is empty. -/
theorem openFile_before_createFile (h : disk.createFile path = .ok (id, disk')) :
    disk' = disk ∨ disk.openFile path = .error .notFound ∧ disk'.bytesOf id = [] := by
  obtain ⟨place, name, walked, short, ⟨same, -⟩ | ⟨rfl, free, -⟩⟩ := createFile_cases h
  · exact .inl same
  · refine .inr ⟨?_, ?_⟩
    · unfold openFile find entryAt
      rw [walked]
      simp only [if_neg short, free]
      rfl
    · rw [bytesOf_createFile h, bytesOf, List.getElem?_eq_none (Nat.le_refl _)]
      rfl

/-- Two disks hold the same files under the same names. -/
structure SameFiles (disk disk' : Disk) : Prop where
  /-- All names are the same. -/
  entries_eq : disk'.entries = disk.entries
  /-- All files are the same. -/
  bytesOf_eq : ∀ id, disk'.bytesOf id = disk.bytesOf id

theorem SameFiles.refl (disk : Disk) : disk.SameFiles disk :=
  ⟨rfl, fun _ => rfl⟩

/-- A file that is new can be removed again, and then the files are as before. -/
theorem removeFile_of_createFile (h : disk.createFile path = .ok (id, disk'))
    (new : disk' ≠ disk) :
    ∃ removed, disk'.removeFile path = .ok removed ∧ disk.SameFiles removed := by
  obtain ⟨place, found, same | ⟨rfl, free, rfl⟩⟩ := find_of_createFile h
  · exact absurd same new
  · have removed : (disk.withEntry place (.file disk.contents.length)).entries.filter
        (fun entry => entry.1 != place) = disk.entries := by
      -- no other entry is for this place
      have others : disk.entries.filter (fun entry => entry.1 != place) = disk.entries := by
        refine List.filter_eq_self.mpr fun entry mem => ?_
        rw [bne_comm]
        exact List.lookup_eq_none_iff.mp free entry mem
      show (disk.entries ++ [(place, _)]).filter _ = _
      rw [List.filter_append, others]
      simp
    have kept := bytesOf_createFile h
    refine ⟨⟨disk.entries, disk.contents ++ [[]]⟩, ?_, rfl, fun other => kept other⟩
    rw [removeFile, found, ← removed]
    rfl

theorem isSound_empty : ({} : Disk).IsSound := by
  intro place id there
  contradiction

/-- Creating a file keeps a disk sound. -/
theorem IsSound.createFile (sound : disk.IsSound)
    (h : disk.createFile path = .ok (id, disk')) : disk'.IsSound := by
  obtain ⟨place, name, -, -, ⟨rfl, there⟩ | ⟨rfl, -, rfl⟩⟩ := createFile_cases h
  · -- the file was there
    exact sound
  · intro other found there
    show found < (disk.contents ++ [[]]).length
    rw [List.length_append]
    have either : (disk.entries ++ [(place ++ [name], DiskEntry.file disk.contents.length)]).lookup
        other = some (.file found) := there
    rw [List.lookup_append, Option.or_eq_some_iff] at either
    -- the entry is an old one, or the one that was added
    rcases either with old | ⟨-, new⟩
    · exact Nat.lt_succ_of_lt (sound other found old)
    · rw [List.lookup_cons] at new
      split at new
      · obtain rfl := DiskEntry.file.inj (Option.some.inj new)
        exact Nat.lt_succ_self _
      · contradiction

/-- So does writing into one. -/
theorem IsSound.onlyChanges (sound : disk.IsSound) (only : OnlyChanges id disk disk') :
    disk'.IsSound := by
  intro place found there
  rw [only.entries_eq] at there
  exact (only.has_iff found).mpr (sound place found there)

/-- What is looked up among the names that are left is looked up among all. -/
theorem lookup_of_filter {entries : List (DiskPlace × DiskEntry)} {place other : DiskPlace}
    {found : DiskEntry}
    (h : (entries.filter fun entry => entry.1 != place).lookup other = some found) :
    entries.lookup other = some found := by
  induction entries with
  | nil => exact h
  | cons entry entries ih =>
    obtain ⟨key, value⟩ := entry
    rw [List.filter_cons] at h
    rw [List.lookup_cons]
    by_cases kept : (key != place) = true
    · rw [if_pos kept, List.lookup_cons] at h
      split
      · next same => rwa [same] at h
      · next different =>
        rw [different] at h
        exact ih h
    · -- the name that is removed is looked up in vain
      rw [if_neg kept] at h
      obtain rfl : key = place := by simpa using kept
      split
      · next same =>
        obtain rfl := eq_of_beq same
        have missing : (entries.filter fun entry => entry.1 != other).lookup other = none := by
          rw [List.lookup_eq_none_iff]
          intro entry mem
          rw [bne_comm]
          exact (List.mem_filter.mp mem).2
        rw [missing] at h
        contradiction
      · exact ih h

/-- What is left when a name is removed was there before, and the files are the same. -/
theorem isKnownTo_of_removeFile (h : disk.removeFile path = .ok disk') :
    disk'.IsKnownTo disk ∧ disk'.contents = disk.contents := by
  rw [Disk.removeFile] at h
  rcases found : disk.find path with e | ⟨place, id⟩
  · rw [found] at h
    contradiction
  · rw [found] at h
    obtain rfl := Except.ok.inj h
    exact ⟨fun _ _ there => lookup_of_filter there, rfl⟩

/-- So does removing a name. -/
theorem IsSound.removeFile (sound : disk.IsSound) (h : disk.removeFile path = .ok disk') :
    disk'.IsSound := by
  obtain ⟨known, same⟩ := isKnownTo_of_removeFile h
  intro place id there
  rw [Has, same]
  exact sound place id (known _ _ there)

end Disk

/-! ### Files that are written at their end -/

namespace OutputFile

variable {file : OutputFile} {disk : Disk}

/-! #### What every action keeps -/

/-- What an action on an open file keeps: it is the same file afterwards, and
nothing but its bytes has changed. -/
structure Keeps (file : OutputFile) (disk : Disk) (after : OutputFile × Disk) : Prop where
  /-- It is the same file. -/
  id_eq : after.1.id = file.id
  /-- Nothing else has changed. -/
  only : Disk.OnlyChanges file.id disk after.2

theorem Keeps.refl (file : OutputFile) (disk : Disk) (pending : Bytes) :
    file.Keeps disk ({ file with pending }, disk) :=
  ⟨rfl, .refl _ _⟩

theorem Keeps.trans {mid after : OutputFile × Disk} (h : file.Keeps disk mid)
    (h' : mid.1.Keeps mid.2 after) : file.Keeps disk after :=
  ⟨h'.id_eq.trans h.id_eq, h.only.trans (h.id_eq ▸ h'.only)⟩

theorem keeps_writeThrough (file : OutputFile) (disk : Disk) (bytes : Bytes) :
    file.Keeps disk (file.writeThrough bytes disk) :=
  ⟨rfl, Disk.onlyChanges_setBytes disk file.id _⟩

theorem keeps_flush (file : OutputFile) (disk : Disk) : file.Keeps disk (file.flush disk) :=
  (Keeps.refl file disk []).trans (keeps_writeThrough _ disk file.pending)

theorem keeps_truncate (file : OutputFile) (disk : Disk) : file.Keeps disk (file.truncate disk) :=
  ⟨rfl, Disk.onlyChanges_setBytes disk file.id _⟩

theorem keeps_write (file : OutputFile) (disk : Disk) (bytes : Bytes) :
    file.Keeps disk (file.write bytes disk) := by
  have flushed := keeps_flush file disk
  rw [write]
  simp only
  split
  · exact .refl file disk _
  · by_cases tooLong : bufferSize - file.pending.length < bytes.length
    · rw [if_pos tooLong]
      split
      · exact flushed.trans (keeps_writeThrough _ _ bytes)
      · exact flushed.trans (.refl _ _ _)
    · rw [if_neg tooLong]
      split
      · exact keeps_writeThrough file disk bytes
      · exact .refl file disk _

/-! #### Images -/

/-- The next byte that leaves the buffer goes behind the last one of the file. -/
structure AtEnd (file : OutputFile) (disk : Disk) : Prop where
  /-- The file exists. -/
  has : disk.Has file.id
  /-- The file is as long as what was written. -/
  position_eq : file.position = (disk.bytesOf file.id).length

/-- The bytes of a file once its buffer is emptied. -/
def image (file : OutputFile) (disk : Disk) : Bytes :=
  disk.bytesOf file.id ++ file.pending

/-- What an action does to an open file: it appends bytes to its image. -/
structure Appends (file : OutputFile) (disk : Disk) (bytes : Bytes)
    (after : OutputFile × Disk) : Prop extends file.Keeps disk after where
  /-- It is written at its end again. -/
  atEnd : after.1.AtEnd after.2
  /-- Its image has grown. -/
  image_eq : after.1.image after.2 = file.image disk ++ bytes

theorem appends_writeThrough (h : file.AtEnd disk) (empty : file.pending = []) (bytes : Bytes) :
    file.Appends disk bytes (file.writeThrough bytes disk) := by
  obtain ⟨has, position⟩ := h
  have written : (file.writeThrough bytes disk).2.bytesOf file.id =
      disk.bytesOf file.id ++ bytes := by
    show (disk.setBytes file.id _).bytesOf file.id = _
    rw [Disk.bytesOf_setBytes has, position, Disk.overwrite_length]
  have keeps := keeps_writeThrough file disk bytes
  refine ⟨keeps, ⟨(keeps.only.has_iff _).mpr has, ?_⟩, ?_⟩
  · show file.position + bytes.length =
      ((file.writeThrough bytes disk).2.bytesOf file.id).length
    rw [written, List.length_append, position]
  · show (file.writeThrough bytes disk).2.bytesOf file.id ++ file.pending =
      disk.bytesOf file.id ++ file.pending ++ bytes
    rw [written, empty, List.append_nil, List.append_nil]

/-- Flushing writes what the buffer holds and changes nothing of the image. -/
theorem appends_flush (h : file.AtEnd disk) : file.Appends disk [] (file.flush disk) := by
  have emptied : ({ file with pending := [] } : OutputFile).AtEnd disk := ⟨h.has, h.position_eq⟩
  obtain ⟨-, atEnd, image_eq⟩ := appends_writeThrough emptied rfl file.pending
  refine ⟨keeps_flush file disk, atEnd, ?_⟩
  rw [List.append_nil]
  refine image_eq.trans ?_
  show disk.bytesOf file.id ++ [] ++ file.pending = disk.bytesOf file.id ++ file.pending
  rw [List.append_nil]

theorem pending_flush (file : OutputFile) (disk : Disk) : (file.flush disk).1.pending = [] := rfl

/-- There is nothing to flush in an empty buffer. -/
theorem flush_of_nil (empty : file.pending = []) : file.flush disk = (file, disk) := by
  obtain ⟨id, position, pending⟩ := file
  obtain rfl : pending = [] := empty
  show (OutputFile.mk id position [], disk.setBytes id (disk.bytesOf id)) = _
  rw [Disk.setBytes_bytesOf]

/-- A flushed file is its image. -/
theorem bytesOf_flush (h : file.AtEnd disk) :
    (file.flush disk).2.bytesOf file.id = file.image disk := by
  have image := (appends_flush h).image_eq
  rw [List.append_nil, OutputFile.image, pending_flush, List.append_nil] at image
  exact image

theorem appends_buffered (h : file.AtEnd disk) (bytes : Bytes) :
    file.Appends disk bytes ({ file with pending := file.pending ++ bytes }, disk) :=
  ⟨.refl _ _ _, ⟨h.has, h.position_eq⟩, (List.append_assoc ..).symm⟩

theorem Appends.trans {mid after : OutputFile × Disk} {front back : Bytes}
    (h : file.Appends disk front mid) (h' : mid.1.Appends mid.2 back after) :
    file.Appends disk (front ++ back) after where
  toKeeps := h.toKeeps.trans h'.toKeeps
  atEnd := h'.atEnd
  image_eq := by rw [h'.image_eq, h.image_eq, List.append_assoc]

/-- **Writing appends**, whether the bytes go into the buffer or past it. -/
theorem appends_write (h : file.AtEnd disk) (bytes : Bytes) :
    file.Appends disk bytes (file.write bytes disk) := by
  have flushed := appends_flush h
  rw [write]
  simp only
  split
  · exact appends_buffered h bytes
  · next full =>
    by_cases tooLong : bufferSize - file.pending.length < bytes.length
    · rw [if_pos tooLong]
      split
      · exact flushed.trans (appends_writeThrough flushed.atEnd (pending_flush file disk) bytes)
      · exact flushed.trans (appends_buffered flushed.atEnd bytes)
    · rw [if_neg tooLong]
      split
      · next large =>
        -- bytes that fill a buffer alone fit only into an empty one
        have empty : file.pending.length = 0 := by
          unfold bufferSize at *
          omega
        exact appends_writeThrough h (List.length_eq_zero_iff.mp empty) bytes
      · exact appends_buffered h bytes

/-- An emptied file has an empty image. -/
theorem truncate_spec (has : disk.Has file.id) (empty : file.pending = []) :
    (file.truncate disk).1.AtEnd (file.truncate disk).2 ∧
      (file.truncate disk).1.image (file.truncate disk).2 = [] := by
  have bytes : (file.truncate disk).2.bytesOf file.id = [] := by
    show (disk.setBytes file.id _).bytesOf file.id = _
    rw [Disk.bytesOf_setBytes has]
    simp
  refine ⟨⟨((keeps_truncate file disk).only.has_iff _).mpr has, ?_⟩, ?_⟩
  · show 0 = _
    rw [show (file.truncate disk).2.bytesOf (file.truncate disk).1.id = [] from bytes]
    rfl
  · show (file.truncate disk).2.bytesOf file.id ++ file.pending = []
    rw [bytes, empty]
    rfl

end OutputFile

end ProxyClient
