/-
Paths of local crates in a manifest.

The path of a local crate is brought to normal form, and after that its backslashes become
slashes. A name with a backslash is one name to the normal form but several in the manifest,
and these are not looked at again: they can be double dots that lead back.

* `DependencyRecord.ofDependency_path_iff` — the recorded path is normal and denotes the
  directory of the crate exactly if the names on the way there have no backslashes;
* `DependencyRecord.not_forall_path_normal` — so a recorded path can be neither.
-/
import Cratewright.Crate.Manifest
import Cratewright.Proofs.Files.Locations

namespace Cratewright

namespace Text

variable {old new : Char}

theorem not_mem_replaceChar (h : new ≠ old) (s : String) :
    old ∉ (replaceChar old new s).toList := by
  rw [replaceChar, String.toList_ofList]
  intro mem
  obtain ⟨c, -, replaced⟩ := List.mem_map.mp mem
  split at replaced
  · exact h replaced
  · rename_i other
    exact other replaced

theorem replaceChar_of_not_mem {s : String} (h : old ∉ s.toList) : replaceChar old new s = s := by
  have same : s.toList.map (fun c => if c = old then new else c) = s.toList.map id := by
    refine List.map_congr_left fun c hc => if_neg ?_
    rintro rfl
    exact h hc
  rw [replaceChar, same, List.map_id, String.ofList_toList]

end Text

namespace DependencyRecord

/-- The path of a local crate as it is asked for: the crate's own directory in the one that
holds it. -/
def requestedPath (base directory name : String) : String :=
  Path.join (Path.join base directory) name

variable (base directory name : String)

/-- Whether the names on the way to a local crate are names without backslashes. -/
def HasPlainNames : Prop :=
  ∀ n ∈ (Path.location (requestedPath base directory name)).names, '\\' ∉ n.toList

theorem localPath_eq_text : localPath base directory name =
    Text.replaceChar '\\' '/' (Path.location (requestedPath base directory name)).text :=
  congrArg (Text.replaceChar '\\' '/') (Path.normalize_eq_text _)

variable {base directory name}

theorem HasPlainNames.localPath_eq (h : HasPlainNames base directory name) :
    localPath base directory name = Path.normalize (requestedPath base directory name) := by
  rw [localPath_eq_text, Path.normalize_eq_text]
  refine Text.replaceChar_of_not_mem fun mem => ?_
  rcases Path.Location.mem_text mem with h' | h' | ⟨n, hn, hc⟩
  · exact absurd h' (by decide)
  · exact absurd h' (by decide)
  · exact h n hn hc

/-- A recorded path has no backslashes, so it denotes a location without them. -/
theorem hasPlainNames_of_location_eq (h : Path.location (localPath base directory name) =
    Path.location (requestedPath base directory name)) : HasPlainNames base directory name := by
  intro n hn hc
  rw [← h] at hn
  exact Text.not_mem_replaceChar (by decide) _ ((Path.isEntry_of_mem_names hn).2 _ hc)

theorem location_localPath_eq_iff : Path.location (localPath base directory name) =
    Path.location (requestedPath base directory name) ↔ HasPlainNames base directory name := by
  refine ⟨hasPlainNames_of_location_eq, fun h => ?_⟩
  rw [h.localPath_eq, Path.location_normalize]

/-- Names without backslashes are all that texts without backslashes have. -/
theorem hasPlainNames_of_not_mem (inBase : '\\' ∉ base.toList)
    (inDirectory : '\\' ∉ directory.toList) (inName : '\\' ∉ name.toList) :
    HasPlainNames base directory name := by
  intro n hn hc
  rcases Path.mem_join ((Path.isEntry_of_mem_names hn).2 _ hc) with h | h | h
  · rcases Path.mem_join h with h | h | h
    · exact inBase h
    · exact inDirectory h
    · exact absurd h (by decide)
  · exact inName h
  · exact absurd h (by decide)

/-- The path that is recorded for a local crate denotes the crate's directory, and is normal
too, exactly if the names on the way there have no backslashes; this is so if neither the
base, nor the directory, nor the crate's name has any. -/
theorem ofDependency_path_iff {d : CrateDependency} {directory : String}
    {version : Option String} (h : d.location = .directory directory version)
    (base : String) :
    ∃ path, (ofDependency d base).path = some path ∧
      (Path.location path = Path.location (requestedPath base directory d.name) ↔
        HasPlainNames base directory d.name) ∧
      (Path.normalize path = path ∧
        Path.location path = Path.location (requestedPath base directory d.name) ↔
          HasPlainNames base directory d.name) ∧
      ('\\' ∉ base.toList → '\\' ∉ directory.toList → '\\' ∉ d.name.toList →
        HasPlainNames base directory d.name) := by
  refine ⟨localPath base directory d.name, ?_, location_localPath_eq_iff, ⟨?_, ?_⟩,
    hasPlainNames_of_not_mem⟩
  · rw [ofDependency, h]
  · intro kept
    exact hasPlainNames_of_location_eq kept.2
  · intro plain
    refine ⟨?_, location_localPath_eq_iff.mpr plain⟩
    rw [plain.localPath_eq]
    exact Path.normalize_eq_iff.mpr (Path.location_normalize _)

/-- A crate that stands two directories above a base of two names. -/
def smithyTypes (directory : String) : CrateDependency :=
  CrateDependency.new "aws-smithy-types" (.directory directory none)

theorem ofDependency_path_iff_smithyTypes :
    (smithyTypes "../../rust-runtime").location = .directory "../../rust-runtime" none ∧
    ∃ path, (ofDependency (smithyTypes "../../rust-runtime") "sdk/weather").path = some path ∧
      Path.normalize path = path ∧ Path.location path =
        Path.location (requestedPath "sdk/weather" "../../rust-runtime" "aws-smithy-types") := by
  refine ⟨rfl, ?_⟩
  obtain ⟨path, recorded, -, normal, plain⟩ :=
    ofDependency_path_iff (d := smithyTypes "../../rust-runtime") rfl "sdk/weather"
  exact ⟨path, recorded, normal.mpr (plain (by decide) (by decide) (by decide))⟩

/-- Double dots between backslashes are recorded as double dots between slashes. -/
theorem not_forall_path_normal :
    ¬ ∀ (d : CrateDependency) (directory : String) (version : Option String) (base : String),
      d.location = .directory directory version →
        ∃ path, (ofDependency d base).path = some path ∧ Path.normalize path = path ∧
          Path.location path = Path.location (requestedPath base directory d.name) := by
  intro all
  obtain ⟨path, recorded, normal, same⟩ :=
    all (smithyTypes "..\\..\\rust-runtime") _ none "sdk/weather" rfl
  have written : (ofDependency (smithyTypes "..\\..\\rust-runtime") "sdk/weather").path
      = some "sdk/weather/../../rust-runtime/aws-smithy-types" := by decide
  rw [written, Option.some_inj] at recorded
  subst recorded
  exact absurd normal (by decide)

end DependencyRecord

end Cratewright
