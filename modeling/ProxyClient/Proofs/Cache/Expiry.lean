/-
ProxyClient/Proofs/Cache/Expiry.lean

When a cache file expires is settled when its recorder is created.  The time
stands in the header, which comes to the file behind the first frame at the
earliest and stays there.  So there are three things to say of a path:

    no frame was written        it is expired if it was so before
    the header is in a buffer   the file is empty: damaged, but not expired
    the header is in the file   it is expired from its time on

What is done later, and when, does not matter (`FileUse.expiry_is_fixed`).
-/
import ProxyClient.Proofs.Cache.Damage
import ProxyClient.Proofs.Cache.Heading

namespace ProxyClient

/-! ### Times -/

namespace CacheHeader

/-- The sum of a time and a ttl, or the last time that there is. -/
theorem toInt_expiryAfter {start : Int64} {ttl : Nat} (begun : 0 ≤ start.toInt)
    (positive : 0 < ttl) :
    (expiryAfter start ttl).toInt = min (start.toInt + ttl) (2 ^ 63 - 1) := by
  have below := start.toInt_lt
  have sum : expiryAfter start ttl = Int64.ofInt (min (start.toInt + ttl) (2 ^ 63 - 1)) := by
    rw [expiryAfter, if_neg (Nat.pos_iff_ne_zero.mp positive)]
    show Int64.ofInt (min (start.toInt + min (ttl : Int) (2 ^ 63 - 1)) (2 ^ 63 - 1)) = _
    congr 1
    omega
  rw [sum]
  refine Int64.toInt_ofInt_of_le ?_ ?_ <;> omega

/-- A header with the expiry of a time and a ttl is expired from their sum on, and never
with a ttl of zero. -/
theorem isExpired_expiryAfter {start now : Int64} {ttl : Nat} (begun : 0 ≤ start.toInt) :
    (CacheHeader.mk (expiryAfter start ttl)).isExpired now = true ↔
      0 < ttl ∧ min (start.toInt + ttl) (2 ^ 63 - 1) ≤ now.toInt := by
  rcases Nat.eq_zero_or_pos ttl with rfl | positive
  · simp [isExpired, expiryAfter]
  · have sum := toInt_expiryAfter begun positive
    have ever : expiryAfter start ttl ≠ 0 := by
      intro zero
      rw [zero, show (0 : Int64).toInt = 0 from rfl] at sum
      omega
    simp [isExpired, ever, positive, Int64.le_iff_toInt_le, sum]

theorem zero_le_timeOn (clock : Int64) : 0 ≤ (timeOn clock).toInt := by
  show 0 ≤ (if clock ≤ 0 then 0 else clock).toInt
  split
  · exact Int.le_refl 0
  · next late => exact Int64.le_iff_toInt_le.mp (Int64.le_of_lt (Int64.not_le.mp late))

end CacheHeader

/-! ### Opening -/

namespace CacheReader

variable {path : String} {disk : Disk} {id : FileId} {now : Int64} {header : CacheHeader}

theorem corruptIfTorn_of_readFrom {file file' : InputFile} {type : Option UInt8} {e : Error}
    (failed : readFrom file disk = (.failed type e, file')) : corruptIfTorn e = .cache .corrupt := by
  rw [readFrom] at failed
  rcases read : readFrame (InputView.mk file (disk.bytesOf file.id)) with ⟨outcome, view⟩
  rw [read] at failed
  obtain ⟨rfl, -⟩ := Prod.mk.inj failed
  exact corruptIfTorn_of_failed InputView.unfailing read

/-- A file with a header is refused as expired exactly if the header is, whatever
stands behind it. -/
theorem openAt_eq_expired_iff (found : disk.openFile path = .ok id)
    (headed : header.encode <+: disk.bytesOf id) :
    openAt path now disk = .error (.cache .expired) ↔ header.isExpired now = true := by
  obtain ⟨behind, bytes⟩ := headed
  obtain ⟨view, readHeader, -⟩ :=
    FaithfulSource.readExact_of_append (s := InputView.mk { id } (disk.bytesOf id)) bytes.symm
  have parsed := header.parse?_encode []
  rw [List.append_nil] at parsed
  rw [header.length_encode] at readHeader
  have there : CacheWriter.openExisting path disk = .ok id := by
    rw [CacheWriter.openExisting, found]
  rw [openAt, there]
  simp only [bind, Except.bind, pure, Except.pure, throw, throwThe, MonadExceptOf.throw,
    readHeader, parsed]
  rcases header.isExpired now with - | -
  · -- what stands behind the header may be damaged, but nothing there is expired
    simp only [Bool.false_eq_true, if_false, iff_false]
    rcases read : readFrom view.file disk with ⟨frame | - | ⟨type, e⟩, after⟩
    · simp only
      split
      · simp
      · split <;> simp
    · simp
    · simp only [corruptIfTorn_of_readFrom read]
      simp
  · simp

/-- An empty file is damaged. -/
theorem openAt_of_empty (found : disk.openFile path = .ok id) (empty : disk.bytesOf id = []) :
    openAt path now disk = .error (.cache .corrupt) := by
  have there : CacheWriter.openExisting path disk = .ok id := by
    rw [CacheWriter.openExisting, found]
  rw [openAt, there]
  simp only [bind, Except.bind, throw, throwThe, MonadExceptOf.throw]
  rcases read : ByteSource.readExact (InputView.mk { id } (disk.bytesOf id)) CacheHeader.size with
    ⟨e | bytes, view⟩
  · rw [ByteSource.eq_unexpectedEnd_of_readExact InputView.unfailing read]
    rfl
  · obtain ⟨length, all⟩ := FaithfulSource.readExact_ok read
    have none : bytes ++ FaithfulSource.unread view = [] := all.symm.trans empty
    rw [(List.append_eq_nil_iff.mp none).1] at length
    contradiction

/-- A path that leads to no file is refused for another reason. -/
theorem openAt_ne_expired_of_missing {e : IoError} (missing : disk.openFile path = .error e)
    (now : Int64) :
    openAt path now disk ≠ .error (.cache .expired) := by
  rw [openAt, CacheWriter.openExisting, missing]
  cases e <;> simp [bind, Except.bind]

end CacheReader

namespace FileUse

variable {path : String} {header : CacheHeader} {id : FileId} {use : FileUse}

/-! ### Expiry -/

/-- The file at a path expires a ttl after a time, whatever is done with it. -/
structure HasExpiry (path : String) (start : Int64) (ttl : Nat) (use : FileUse) : Prop where
  /-- It is refused as expired from the sum of both on, or from the last time that there
  is, if the ttl is not zero and the header has come to the file. -/
  expired_iff : ∀ now, CacheReader.openAt path now use.disk = .error (.cache .expired) ↔
    use.IsWritten path ∧ 0 < ttl ∧ min (start.toInt + ttl) (2 ^ 63 - 1) ≤ now.toInt
  /-- Before, it is empty. -/
  damaged : ¬ use.IsWritten path →
    ∀ now, CacheReader.openAt path now use.disk = .error (.cache .corrupt)
  /-- The header comes to the file as soon as a recorder empties its buffer. -/
  flushed : ∀ i deed, i < use.writers.length → deed.flushes = true →
    (use.after path (.does i deed)).IsWritten path
  /-- And there it stays. -/
  lasts : use.IsWritten path → ∀ acts : List Act,
    (acts.foldl (FileUse.after path) use).IsWritten path
  /-- What is expired remains so. -/
  remains : ∀ now now', CacheReader.openAt path now use.disk = .error (.cache .expired) →
    now ≤ now' → ∀ acts : List Act,
      CacheReader.openAt path now' (acts.foldl (FileUse.after path) use).disk =
        .error (.cache .expired)

section

variable {start : Int64} {ttl : Nat}

theorem IsHeaded.expired_iff (begun : 0 ≤ start.toInt)
    (headed : use.IsHeaded path ⟨CacheHeader.expiryAfter start ttl⟩) (now : Int64) :
    CacheReader.openAt path now use.disk = .error (.cache .expired) ↔
      use.IsWritten path ∧ 0 < ttl ∧ min (start.toInt + ttl) (2 ^ 63 - 1) ≤ now.toInt := by
  by_cases written : use.IsWritten path
  · obtain ⟨id, stands⟩ := headed.stands written
    rw [CacheReader.openAt_eq_expired_iff stands.found stands.begins,
      CacheHeader.isExpired_expiryAfter begun]
    exact (and_iff_right written).symm
  · rcases headed with ⟨writer, -, found, -, waiting⟩ | ⟨id, stands⟩
    · rw [CacheReader.openAt_of_empty found waiting.empty]
      simp [written]
    · exact absurd stands.isWritten written

theorem IsHeaded.hasExpiry (begun : 0 ≤ start.toInt)
    (headed : use.IsHeaded path ⟨CacheHeader.expiryAfter start ttl⟩) :
    use.HasExpiry path start ttl where
  expired_iff := headed.expired_iff begun
  damaged unwritten now := by
    rcases headed with ⟨writer, -, found, -, waiting⟩ | ⟨id, stands⟩
    · exact CacheReader.openAt_of_empty found waiting.empty
    · exact absurd stands.isWritten unwritten
  flushed i deed inside flushes := by
    rcases headed with waits | ⟨id, stands⟩
    · -- there is but one recorder
      obtain ⟨writer, alone, -⟩ := id waits
      rw [alone] at inside
      obtain rfl : i = 0 := Nat.lt_one_iff.mp inside
      rcases waits.after_does deed with ⟨id, stands⟩ | ⟨-, kept⟩
      · exact stands.isWritten
      · rw [kept] at flushes
        contradiction
    · exact (stands.after _).isWritten
  lasts written acts := by
    obtain ⟨id, stands⟩ := headed.stands written
    exact (stands.foldl acts).isWritten
  remains now now' expired later acts := by
    obtain ⟨written, positive, reached⟩ := (headed.expired_iff begun now).mp expired
    obtain ⟨id, stands⟩ := headed.stands written
    refine ((headed.foldl acts).expired_iff begun now').mpr
      ⟨(stands.foldl acts).isWritten, positive, ?_⟩
    exact Int.le_trans reached (Int64.le_iff_toInt_le.mp later)

end

/-- With the first frame the header is in the file, or in the buffer in front of it. -/
theorem isHeaded_of_first {writer : CacheWriter} {disk : Disk} (fresh : writer.IsFresh disk)
    (found : disk.openFile path = .ok writer.file.id) {first : Deed} (writes : first.writes = true) :
    (FileUse.after path ⟨[writer], disk⟩ (.does 0 first)).IsHeaded path ⟨writer.expiresAt⟩ := by
  have headed := fresh.holds_start
  have begun : (⟨[(writer.start disk).1], (writer.start disk).2⟩ : FileUse).IsHeaded path
      ⟨writer.expiresAt⟩ := by
    refine .inl ⟨_, rfl, ?_, headed.started, fresh.waits_start⟩
    rw [headed.id_eq]
    exact (Disk.openFile_congr headed.only.entries_eq path).trans found
  have same : FileUse.after path ⟨[writer], disk⟩ (.does 0 first) =
      FileUse.after path ⟨[(writer.start disk).1], (writer.start disk).2⟩ (.does 0 first) := by
    rw [after_does_only, after_does_only, Deed.run_of_fresh fresh writes]
  rw [same]
  exact begun.after _

/-- As long as no frame is written, the recorder and the disk stay as they are, until the
recorder is let go; and then the name of an empty file may have been removed. -/
theorem foldl_of_silent (path : String) {writer : CacheWriter} {disk : Disk}
    (fresh : writer.IsFresh disk) {quiet : List Deed} (silent : ∀ deed ∈ quiet, deed.writes = false) :
    (quiet.map (Act.does 0)).foldl (FileUse.after path) ⟨[writer], disk⟩ = ⟨[writer], disk⟩ ∨
      ∃ left, (quiet.map (Act.does 0)).foldl (FileUse.after path) ⟨[writer], disk⟩ = ⟨[], left⟩ ∧
        (left = disk ∨
          disk.bytesOf writer.file.id = [] ∧ disk.removeFile writer.path = .ok left) := by
  induction quiet with
  | nil => exact .inl rfl
  | cons deed quiet ih =>
    have others := ih fun other mem => silent other (List.mem_cons_of_mem _ mem)
    rw [List.map_cons, List.foldl_cons]
    rcases Deed.run_of_silent fresh (silent deed List.mem_cons_self) with ran | ⟨left, ran, kept⟩
    · -- the recorder stays as it is
      have same : FileUse.after path ⟨[writer], disk⟩ (.does 0 deed) = ⟨[writer], disk⟩ := by
        rw [after_does_only, ran]
        rfl
      rw [same]
      exact others
    · -- it is given up, and nobody is left to act
      have gone : FileUse.after path ⟨[writer], disk⟩ (.does 0 deed) = ⟨[], left⟩ := by
        rw [after_does_only, ran]
        rfl
      have nobody (quiet : List Deed) :
          (quiet.map (Act.does 0)).foldl (FileUse.after path) ⟨[], left⟩ = ⟨[], left⟩ := by
        induction quiet with
        | nil => rfl
        | cons deed quiet ih => exact ih
      rw [gone, nobody]
      exact .inr ⟨left, rfl, kept⟩

/-- A path of which the name was removed is not refused as expired, if the file was
empty. -/
theorem openAt_ne_expired_of_removed {disk left : Disk} (found : disk.openFile path = .ok id)
    (empty : disk.bytesOf id = []) (removed : disk.removeFile path = .ok left) (now : Int64) :
    CacheReader.openAt path now left ≠ .error (.cache .expired) := by
  obtain ⟨known, same⟩ := Disk.isKnownTo_of_removeFile removed
  rcases there : left.openFile path with e | id'
  · exact CacheReader.openAt_ne_expired_of_missing there now
  · obtain rfl := Except.ok.inj (found.symm.trans (Disk.openFile_of_known known there))
    have empty' : left.bytesOf id = [] := by
      rw [Disk.bytesOf, same]
      exact empty
    rw [CacheReader.openAt_of_empty there empty']
    simp

/-- A recorder that is created leaves the expiry of an older file in force. -/
theorem openAt_create {before opened : Disk} {writer : CacheWriter} {ttl : Nat} {clock : Int64}
    (created : CacheWriter.create path ttl clock before = .ok writer opened) (now : Int64) :
    CacheReader.openAt path now opened = .error (.cache .expired) ↔
      CacheReader.openAt path now before = .error (.cache .expired) := by
  obtain ⟨file, -⟩ := CacheWriter.create_ok created
  rcases Disk.openFile_before_createFile file with rfl | ⟨missing, empty⟩
  · exact Iff.rfl
  · have new := CacheReader.openAt_ne_expired_of_missing missing now
    rw [CacheReader.openAt_of_empty (Disk.openFile_of_createFile file) empty]
    simp [new]

/-- **Expiry is fixed when a cache file is created.**  A recorder is created at a time, for
a file that expires after a ttl.  As long as it writes no frame, also if it is let go, the
path is refused as expired exactly if it was so before.  With the first frame the file has
its expiry, and whatever recorders write from then on, let go or continue, and wherever the
file is cut off behind its header, it keeps this one. -/
theorem expiry_is_fixed {before opened : Disk} {writer : CacheWriter} {ttl : Nat} {clock : Int64}
    (sound : before.IsSound) (created : CacheWriter.create path ttl clock before = .ok writer opened)
    {quiet : List Deed} (silent : ∀ deed ∈ quiet, deed.writes = false) :
    let waiting := (quiet.map (Act.does 0)).foldl (FileUse.after path) ⟨[writer], opened⟩
    (∀ now, CacheReader.openAt path now waiting.disk = .error (.cache .expired) ↔
      CacheReader.openAt path now before = .error (.cache .expired)) ∧
    ∀ (first : Deed) (later : List Act), waiting.writers ≠ [] → first.writes = true →
      (later.foldl (FileUse.after path) (waiting.after path (.does 0 first))).HasExpiry path
        (CacheHeader.timeOn clock) ttl := by
  obtain ⟨fresh, found, expiry⟩ := CacheWriter.create_spec sound created
  have path_eq : writer.path = path := by
    rw [(CacheWriter.create_ok created).2]
  intro waiting
  rcases foldl_of_silent path fresh silent with same | ⟨left, gone, rest⟩
  · rw [show waiting = ⟨[writer], opened⟩ from same]
    refine ⟨openAt_create created, fun first later _ writes => ?_⟩
    have headed := (isHeaded_of_first fresh found writes).foldl later
    rw [expiry] at headed
    exact headed.hasExpiry (CacheHeader.zero_le_timeOn clock)
  · rw [show waiting = ⟨[], left⟩ from gone]
    refine ⟨fun now => ?_, fun _ _ some_ => absurd rfl some_⟩
    rcases rest with rfl | ⟨empty, removed⟩
    · exact openAt_create created now
    · -- the file was empty, so that it was not expired before either
      rw [path_eq] at removed
      have after := openAt_ne_expired_of_removed found empty removed now
      rw [← openAt_create created, CacheReader.openAt_of_empty found empty]
      simp [after]

/-- A recorder that is created for a file that is new. -/
def newWriter (expiresAt : Int64) : CacheWriter where
  path := "rows"
  file := { id := 0 }
  expiresAt := expiresAt
  started := false
  described := false
  finished := false

/-- The disk with the new file. -/
def newDisk : Disk where
  entries := [(["rows"], .file 0)]
  contents := [[]]

/-- What is done with the file behind its first frame: it is let go, cut off inside of
this frame, continued and completed. -/
def resumedLater : List Act :=
  [.does 0 (.closes .detach), .cuts 12, .continues, .does 0 (.closes .finish)]

/-- A file with a ttl of ten seconds, which is looked for once in between. -/
theorem expiry_is_fixed_resumed :
    let waiting := ([Deed.takes (.batchEnd ⟨false, 0⟩)].map (Act.does 0)).foldl
      (FileUse.after "rows") ⟨[newWriter 110], newDisk⟩
    let first := Deed.takes (.describe CacheReader.plainDescribe)
    ({} : Disk).IsSound ∧ CacheWriter.create "rows" 10 100 {} = .ok (newWriter 110) newDisk ∧
      (∀ now, CacheReader.openAt "rows" now waiting.disk = .error (.cache .expired) ↔
        CacheReader.openAt "rows" now {} = .error (.cache .expired)) ∧
      waiting.writers ≠ [] ∧ first.writes = true ∧
      (resumedLater.foldl (FileUse.after "rows") (waiting.after "rows" (.does 0 first))).HasExpiry
        "rows" (CacheHeader.timeOn 100) 10 := by
  have created : CacheWriter.create "rows" 10 100 {} = .ok (newWriter 110) newDisk := rfl
  have silent : ∀ deed ∈ [Deed.takes (.batchEnd ⟨false, 0⟩)], deed.writes = false := by decide
  obtain ⟨before, fixed⟩ := expiry_is_fixed Disk.isSound_empty created silent
  have waits : (([Deed.takes (.batchEnd ⟨false, 0⟩)].map (Act.does 0)).foldl
      (FileUse.after "rows") ⟨[newWriter 110], newDisk⟩).writers ≠ [] := by decide
  exact ⟨Disk.isSound_empty, created, before, waits, rfl, fixed _ resumedLater waits rfl⟩

/-- A file that expires after a second, a hundred seconds later: as long as its description
is in the buffer of the recorder the file is taken for damaged, and not for expired. -/
theorem buffered_not_expired :
    let written := (newWriter 1).apply (.describe CacheReader.plainDescribe) newDisk
    CacheWriter.create "rows" 1 0 {} = .ok (newWriter 1) newDisk ∧ written.1.started = true ∧
      CacheReader.openAt "rows" 100 written.2 = .error (.cache .corrupt) ∧
      CacheReader.openAt "rows" 100 (written.1.detach written.2) = .error (.cache .expired) := by
  refine ⟨rfl, rfl, ?_, ?_⟩
  · decide +kernel
  · decide +kernel

end FileUse

end ProxyClient
