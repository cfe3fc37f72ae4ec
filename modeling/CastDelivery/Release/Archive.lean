import CastDelivery.Release.Basic
import Mathlib.Data.List.Lex
import Mathlib.Data.List.Nodup
import Mathlib.Order.Lattice

/-!
# The release archive

`build_release_artifacts.py` from `_release_files` on. The file system lists the files below the
source directory in no particular order, with whatever modes the checkout has given them; the
archive is to be the same on every runner.

`same_archive_iff`: two trees make the same archive if and only if they ship the same files, each
with its path, its bytes and whether its owner may execute it.
-/

namespace CastDelivery
namespace Release

/-! ## Sorting by a key -/

section Sorting

variable {α κ : Type*} [LinearOrder κ] {key : α → κ} {l l' : List α}

/-- Lists whose elements have keys of their own are the same when sorted by these if and only if
they have the same elements equally often. -/
theorem mergeSort_key_eq_iff (hkey : ∀ a ∈ l, ∀ b ∈ l, key a = key b → a = b) :
    (l.mergeSort fun a b => key a ≤ key b) = (l'.mergeSort fun a b => key a ≤ key b) ↔
      l.Perm l' := by
  constructor
  · intro h
    exact (List.mergeSort_perm l _).symm.trans (h ▸ List.mergeSort_perm l' _)
  · intro h
    have hsorted : ∀ m : List α, (m.mergeSort fun a b => key a ≤ key b).Pairwise
        fun a b => key a ≤ key b := fun m =>
      (List.pairwise_mergeSort (fun a b c hab hbc => decide_eq_true
        ((of_decide_eq_true hab).trans (of_decide_eq_true hbc)))
        (fun a b => by simpa using le_total (key a) (key b)) m).imp of_decide_eq_true
    have hperm := (List.mergeSort_perm l fun a b => key a ≤ key b).trans
      (h.trans (List.mergeSort_perm l' fun a b => key a ≤ key b).symm)
    refine List.Perm.eq_of_pairwise (fun a b ha hb hab hba => ?_) (hsorted l) (hsorted l') hperm
    have hal : a ∈ l := (List.mergeSort_perm l _).mem_iff.mp ha
    have hbl : b ∈ l := h.mem_iff.mpr ((List.mergeSort_perm l' _).mem_iff.mp hb)
    exact hkey a hal b hbl (le_antisymm hab hba)

end Sorting

/-! ## The source directory -/

/-- `/`. -/
def slash : ℕ := 47

/-- `path.relative_to(source)`, by its parts. -/
structure RelativePath where
  parts : List PyStr
  nonempty : parts ≠ []
  components : ∀ part ∈ parts, slash ∉ part
deriving DecidableEq

namespace RelativePath

/-- `as_posix()`. -/
def asPosix (path : RelativePath) : PyStr := [slash].intercalate path.parts

/-- `path.name`. -/
def name (path : RelativePath) : PyStr := path.parts.getLast path.nonempty

/-- `os.path.splitext(name)[1]`: from the last dot on, if something but dots is before it. -/
def suffixOf (name : PyStr) : PyStr :=
  let last := name.reverse.takeWhile (· ≠ 46)
  let front := (name.take (name.length - last.length)).dropLast
  if front.all (· = 46) then [] else 46 :: last.reverse

/-- `path.suffix`. -/
def suffix (path : RelativePath) : PyStr := suffixOf path.name

theorem asPosix_inj {path path' : RelativePath} (h : path.asPosix = path'.asPosix) :
    path = path' := by
  have hsplit := congrArg (List.splitOn slash) h
  unfold asPosix at hsplit
  rw [List.splitOn_intercalate slash path.components path.nonempty,
    List.splitOn_intercalate slash path'.components path'.nonempty] at hsplit
  cases path
  cases path'
  simpa using hsplit

end RelativePath

/-- `S_IXUSR`. -/
def S_IXUSR : ℕ := 0o100

/-- What `source.rglob("*")` yields, with its `st_mode` and its bytes. -/
structure PathEntry where
  path : RelativePath
  isFile : Bool
  mode : ℕ
  bytes : List UInt8
deriving DecidableEq

/-- What the archive keeps of a file. -/
structure ShippedFile where
  path : RelativePath
  executable : Bool
  bytes : List UInt8
deriving DecidableEq

/-- The source directory, in the order in which the file system lists it. -/
structure SourceTree where
  entries : List PathEntry
  nodup : (entries.map PathEntry.path).Nodup

/-- `_SKIP_PARTS`. -/
def skipParts : List PyStr := [pyStr "__pycache__", pyStr "node_modules"]

namespace PathEntry

/-- The condition of `_release_files`. -/
def isReleased (entry : PathEntry) : Bool :=
  entry.isFile && entry.path.parts.all (fun part => !skipParts.contains part) &&
    !List.contains [pyStr ".pyc", pyStr ".pyo"] entry.path.suffix

/-- What the archive keeps. -/
def shipped (entry : PathEntry) : ShippedFile where
  path := entry.path
  executable := entry.mode &&& S_IXUSR ≠ 0
  bytes := entry.bytes

end PathEntry

namespace SourceTree

/-- `_release_files`. -/
def releaseFiles (tree : SourceTree) : List PathEntry :=
  (tree.entries.filter PathEntry.isReleased).mergeSort fun a b => a.path.asPosix ≤ b.path.asPosix

/-- A file is shipped. -/
def Ships (tree : SourceTree) (file : ShippedFile) : Prop :=
  ∃ entry ∈ tree.entries, entry.isReleased = true ∧ entry.shipped = file

end SourceTree

/-! ## The archive -/

/-- A member of the archive, apart from what `zipfile` derives from its data. -/
structure ZipEntry where
  filename : PyStr
  dateTime : List ℕ
  createSystem : ℕ
  externalAttr : ℕ
  data : List UInt8
deriving DecidableEq

structure Archive where
  comment : PyStr
  entries : List ZipEntry
deriving DecidableEq

/-- `_FIXED_ZIP_TIME`. -/
def fixedZipTime : List ℕ := [1980, 1, 1, 0, 0, 0]

/-- The turn of a file in the loop of `build_archive`. -/
def ShippedFile.zipEntry (file : ShippedFile) : ZipEntry where
  filename := file.path.asPosix
  dateTime := fixedZipTime
  createSystem := 3
  externalAttr := (if file.executable then 0o100755 else 0o100644) <<< 16
  data := file.bytes

/-- `source / "manifest.json"`. -/
def manifestPath : RelativePath where
  parts := [pyStr "manifest.json"]
  nonempty := by simp
  components := by decide

/-- `build_archive`, for the name of the source directory and the version that `validate_versions`
returns. -/
def buildArchive (name version : PyStr) (tree : SourceTree) : Except ReleaseExc Archive :=
  let files := tree.releaseFiles
  if files = [] ∨ manifestPath ∉ files.map PathEntry.path then
    .error (.valueError (pyStr "Release source is empty or missing manifest.json"))
  else
    let comment := name ++ pyStr " " ++ version
    -- `zipfile` writes a file name in UTF-8
    if comment.all (· < 128) ∧ ∀ entry ∈ files, entry.path.asPosix.Scalar then
      .ok { comment := comment, entries := files.map fun entry => entry.shipped.zipEntry }
    else .error (.other "UnicodeEncodeError")

variable {tree tree' : SourceTree} {name version : PyStr} {archive : Archive}

/-! ## The same files -/

theorem zipEntry_inj {file file' : ShippedFile} (h : file.zipEntry = file'.zipEntry) :
    file = file' := by
  obtain ⟨path, executable, bytes⟩ := file
  obtain ⟨path', executable', bytes'⟩ := file'
  simp only [ShippedFile.zipEntry, ZipEntry.mk.injEq, true_and] at h
  obtain ⟨hpath, hattr, rfl⟩ := h
  obtain rfl := RelativePath.asPosix_inj hpath
  have hmodes : ∀ x y : Bool, ((if x then 0o100755 else 0o100644) <<< 16 : ℕ) =
      (if y then 0o100755 else 0o100644) <<< 16 → x = y := by decide
  rw [hmodes executable executable' hattr]

namespace SourceTree

/-- The shipped files, in the order of the file system. -/
def shippedFiles (tree : SourceTree) : List ShippedFile :=
  (tree.entries.filter PathEntry.isReleased).map PathEntry.shipped

theorem mem_shippedFiles (file : ShippedFile) : file ∈ tree.shippedFiles ↔ tree.Ships file := by
  simp [shippedFiles, Ships, and_assoc]

theorem nodup_shippedFiles (tree : SourceTree) :
    (tree.shippedFiles.map ShippedFile.path).Nodup := by
  unfold shippedFiles
  rw [List.map_map]
  exact tree.nodup.sublist (List.filter_sublist.map _)

/-- A path is shipped once. -/
theorem eq_of_asPosix_eq {file file' : ShippedFile} (h : file ∈ tree.shippedFiles)
    (h' : file' ∈ tree.shippedFiles) (hpath : file.path.asPosix = file'.path.asPosix) :
    file = file' :=
  List.inj_on_of_nodup_map tree.nodup_shippedFiles h h' (RelativePath.asPosix_inj hpath)

/-- The shipped files, sorted by their paths. -/
theorem map_shipped_releaseFiles (tree : SourceTree) :
    tree.releaseFiles.map PathEntry.shipped =
      tree.shippedFiles.mergeSort fun a b => a.path.asPosix ≤ b.path.asPosix :=
  List.map_mergeSort fun _ _ _ _ => rfl

/-- The sorted files are the same if and only if the same files are shipped. -/
theorem releaseFiles_eq_iff :
    tree.releaseFiles.map PathEntry.shipped = tree'.releaseFiles.map PathEntry.shipped ↔
      ∀ file, tree.Ships file ↔ tree'.Ships file := by
  rw [map_shipped_releaseFiles, map_shipped_releaseFiles,
    mergeSort_key_eq_iff fun a ha b hb => eq_of_asPosix_eq ha hb,
    List.perm_ext_iff_of_nodup tree.nodup_shippedFiles.of_map tree'.nodup_shippedFiles.of_map]
  simp only [mem_shippedFiles]

end SourceTree

/-- What the archive is made of. -/
theorem buildArchive_eq_ok_iff : buildArchive name version tree = .ok archive ↔
    manifestPath ∈ (tree.releaseFiles.map PathEntry.shipped).map ShippedFile.path ∧
      ((name ++ pyStr " " ++ version).all (· < 128) = true ∧
        ∀ path ∈ (tree.releaseFiles.map PathEntry.shipped).map ShippedFile.path,
          path.asPosix.Scalar) ∧
      archive = ⟨name ++ pyStr " " ++ version,
        (tree.releaseFiles.map PathEntry.shipped).map ShippedFile.zipEntry⟩ := by
  have hpaths : (tree.releaseFiles.map PathEntry.shipped).map ShippedFile.path =
      tree.releaseFiles.map PathEntry.path := by rw [List.map_map]; rfl
  have hempty : manifestPath ∈ tree.releaseFiles.map PathEntry.path → tree.releaseFiles ≠ [] := by
    rintro hmem hnil
    rw [hnil] at hmem
    cases hmem
  unfold buildArchive
  rw [hpaths, List.map_map, List.forall_mem_map]
  dsimp only
  by_cases hmanifest : manifestPath ∈ tree.releaseFiles.map PathEntry.path
  · rw [if_neg (by simpa [hempty hmanifest] using hmanifest)]
    by_cases hwritable : (name ++ pyStr " " ++ version).all (· < 128) = true ∧
        ∀ entry ∈ tree.releaseFiles, entry.path.asPosix.Scalar
    · rw [if_pos hwritable, and_iff_right hmanifest, and_iff_right hwritable, Except.ok.injEq]
      exact eq_comm
    · rw [if_neg hwritable]
      simp only [hwritable, false_and, and_false, reduceCtorEq]
  · rw [if_pos (.inr hmanifest)]
    simp only [hmanifest, false_and, reduceCtorEq]

/-- **The archive is deterministic, and loses nothing.** A tree makes the same archive as another
one of the same name and version if and only if they ship the same files: the order in which the
file system lists them, the other bits of their modes and the files that are skipped make no
difference, and everything else does. -/
theorem same_archive_iff (h : buildArchive name version tree = .ok archive) :
    buildArchive name version tree' = .ok archive ↔
      ∀ file, tree.Ships file ↔ tree'.Ships file := by
  obtain ⟨hmanifest, hwritable, rfl⟩ := buildArchive_eq_ok_iff.mp h
  rw [buildArchive_eq_ok_iff, ← SourceTree.releaseFiles_eq_iff]
  constructor
  · rintro ⟨-, -, harchive⟩
    exact List.map_injective_iff.mpr (fun _ _ => zipEntry_inj) (Archive.mk.inj harchive).2
  · intro hfiles
    rw [← hfiles]
    exact ⟨hmanifest, hwritable, rfl⟩

/-- `source / "const.py"`. -/
def constPath : RelativePath where
  parts := [pyStr "const.py"]
  nonempty := by simp
  components := by decide

/-- A tree with a manifest and a module. -/
def manifestTree : SourceTree where
  entries := [⟨constPath, true, 0o644, [35]⟩, ⟨manifestPath, true, 0o644, [123, 125]⟩]
  nodup := by decide

/-- A checkout of it that is listed the other way round, that its group may write, and that has a
cached file. -/
def manifestCheckout : SourceTree where
  entries :=
    [⟨manifestPath, true, 0o664, [123, 125]⟩,
      ⟨⟨[pyStr "__pycache__", pyStr "const.pyc"], by decide, by decide⟩, true, 0o664, [0]⟩,
      ⟨constPath, true, 0o664, [35]⟩]
  nodup := by decide

/-- The archive of both. -/
def manifestArchive : Archive where
  comment := pyStr "cast 2026.09.03.1"
  entries :=
    [⟨pyStr "const.py", fixedZipTime, 3, 0o100644 <<< 16, [35]⟩,
      ⟨pyStr "manifest.json", fixedZipTime, 3, 0o100644 <<< 16, [123, 125]⟩]

theorem same_archive_manifestCheckout :
    buildArchive (pyStr "cast") (pyStr "2026.09.03.1") manifestCheckout = .ok manifestArchive := by
  have hfiles : manifestTree.releaseFiles = manifestTree.entries := by
    unfold SourceTree.releaseFiles
    rw [List.filter_eq_self.mpr (by decide)]
    exact List.mergeSort_of_pairwise (by decide)
  have hbuilt : buildArchive (pyStr "cast") (pyStr "2026.09.03.1") manifestTree =
      .ok manifestArchive := by
    refine buildArchive_eq_ok_iff.mpr ?_
    rw [hfiles]
    decide
  have hshipped : manifestCheckout.shippedFiles.Perm manifestTree.shippedFiles := by decide
  refine (same_archive_iff hbuilt).mpr fun file => ?_
  rw [← SourceTree.mem_shippedFiles, ← SourceTree.mem_shippedFiles, hshipped.mem_iff]

end Release
end CastDelivery
