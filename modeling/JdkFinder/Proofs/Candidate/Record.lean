import JdkFinder.Proofs.Json.Document
import JdkFinder.Proofs.Json.Record
import JdkFinder.Report

/-!
# Printed candidates are read again

What the commands print of candidates as JSON is read as the same candidates in the same order
(`Report.read_candidates_json`): nothing that is known of a candidate is lost on paper, and none is
taken for one of another source.

For each type of record there are two lemmas.  One says that the record has no part that a reader
cannot follow (`plain_encode`, `plain_members`), the other that it describes the value it was made
of (`decode?_encode`, `decodeWith?_members`).
-/

namespace JdkFinder

open Json (Plain)

variable {depth : Nat} {vendorOf : Json → Option Vendor}

/-! ## §1 Vendors and versions -/

namespace Vendor

theorem ofTag?_tag (vendor : Vendor) : ofTag? vendor.tag = some vendor := by
  cases vendor <;> decide

/-- A reader of vendors that knows each by its word. -/
def KnowsWords (vendorOf : Json → Option Vendor) : Prop :=
  ∀ vendor, vendorOf (encode vendor) = some vendor

theorem knowsWords_decode? : KnowsWords decode? :=
  ofTag?_tag

theorem knowsWords_decodeLoosely? : KnowsWords decodeLoosely? :=
  ofTag?_tag

/-- No word is taken for a missing vendor. -/
theorem asOption?_encodeOption (h : KnowsWords vendorOf) (vendor : Option Vendor) :
    Json.asOption? vendorOf (encodeOption vendor) = some vendor :=
  Json.asOption?_encode h (fun _ => nofun) vendor

theorem plain_encodeOption (vendor : Option Vendor) : Plain depth (encodeOption vendor) := by
  cases vendor with
  | none => exact .null
  | some vendor => exact .string vendor.tag

end Vendor

namespace Version

theorem decode?_encode (v : Version) : decode? v.encode = some v := by
  have hslots : Json.slots? [["feature"], ["interim"], ["update"], ["patch"], ["build"], ["ea"]]
      v.encode = some
        [.given (.nat v.feature.toNat), .given (.nat v.interim.toNat),
         .given (.nat v.update.toNat), .given (.nat v.patch.toNat), .given (.nat v.build.toNat),
         .given (.bool v.early)] :=
    Json.slots?_object (by simp)
  simp only [decode?, hslots, Option.bind_eq_bind, Option.bind_some, Json.Slot.required?,
    Json.asWord32?_nat, Json.asBool?]

theorem asOption?_encodeOption (v : Option Version) :
    Json.asOption? decode? (encodeOption v) = some v :=
  Json.asOption?_encode decode?_encode (fun _ => nofun) v

theorem plain_encode (v : Version) : Plain (depth + 1) v.encode := by
  -- Numbers of 32 bits are among those of 64 bits, which are written as they are.
  have hword (word : UInt32) : Plain depth (.nat word.toNat) :=
    .nat (Nat.lt_trans word.toNat_lt (by decide))
  refine .object ?_
  simp only [List.forall_mem_cons]
  exact ⟨hword _, hword _, hword _, hword _, hword _, .bool _, nofun⟩

theorem plain_encodeOption (v : Option Version) : Plain (depth + 1) (encodeOption v) := by
  cases v with
  | none => exact .null
  | some v => exact v.plain_encode

end Version

/-! ## §2 The three sources -/

namespace Package

theorem decode?_encode (package : Package) : decode? package.encode = some package := by
  have hslots : Json.slots?
      [["os"], ["arch"], ["package_type"], ["url"], ["sha256"], ["size"], ["unpack_prefix"]]
      package.encode = some
        [.given (.string package.os), .given (.string package.arch),
         .given (.string package.packageType), .given (.string package.url),
         .given (Json.text? package.sha256), .given (.nat package.size.toNat),
         .given (Json.text? package.unpackPrefix)] :=
    Json.slots?_object (by simp)
  simp only [decode?, hslots, Option.bind_eq_bind, Option.bind_some, Json.Slot.required?,
    Json.Slot.default?, Json.asText?, Json.asOption?_text?, Json.asWord64?_nat]

theorem plain_encode (package : Package) : Plain (depth + 1) package.encode := by
  refine .object ?_
  simp only [List.forall_mem_cons]
  exact ⟨.string _, .string _, .string _, .string _, Json.plain_text? _,
    .nat package.size.toNat_lt, Json.plain_text? _, nofun⟩

end Package

namespace RegisteredJdk

theorem decodeWith?_members (h : Vendor.KnowsWords vendorOf) (jdk : RegisteredJdk) :
    decodeWith? vendorOf (.object jdk.members) = some jdk := by
  have hslots := Json.slots?_object (show (jdk.members.map (·.1)).Nodup by simp [members])
  simp only [members, List.map_cons, List.map_nil] at hslots
  simp only [decodeWith?, members, hslots, Option.bind_eq_bind, Option.bind_some,
    Json.Slot.required?, Json.Slot.nullable?, Json.asText?, Json.asBool?, Version.decode?_encode,
    Vendor.asOption?_encodeOption h]

theorem plain_members (jdk : RegisteredJdk) :
    ∀ member ∈ jdk.members, Plain (depth + 1) member.2 := by
  simp only [members, List.forall_mem_cons]
  exact ⟨.string _, .string _, .string _, jdk.version.plain_encode, .string _,
    Vendor.plain_encodeOption _, .bool _, nofun⟩

end RegisteredJdk

namespace DetectedJdk

theorem decodeWith?_members (h : Vendor.KnowsWords vendorOf) (jdk : DetectedJdk) :
    decodeWith? vendorOf (.object jdk.members) = some jdk := by
  have hslots := Json.slots?_object (show (jdk.members.map (·.1)).Nodup by simp [members])
  simp only [members, List.map_cons, List.map_nil] at hslots
  simp only [decodeWith?, members, hslots, Option.bind_eq_bind, Option.bind_some,
    Json.Slot.required?, Json.Slot.nullable?, Json.asText?, Version.decode?_encode,
    Vendor.asOption?_encodeOption h]

theorem plain_members (jdk : DetectedJdk) :
    ∀ member ∈ jdk.members, Plain (depth + 1) member.2 := by
  simp only [members, List.forall_mem_cons]
  exact ⟨.string _, .string _, jdk.version.plain_encode, .string _, Vendor.plain_encodeOption _,
    nofun⟩

end DetectedJdk

namespace DownloadableJdk

theorem decodeWith?_members (h : Vendor.KnowsWords vendorOf) (jdk : DownloadableJdk) :
    decodeWith? vendorOf (.object jdk.members) = some jdk := by
  have hslots := Json.slots?_object (show (jdk.members.map (·.1)).Nodup by simp [members])
  simp only [members, List.map_cons, List.map_nil] at hslots
  simp only [decodeWith?, members, hslots, Option.bind_eq_bind, Option.bind_some,
    Json.Slot.required?, Json.Slot.nullable?, Json.asText?, Json.asBool?,
    Version.asOption?_encodeOption, Package.decode?_encode, Vendor.asOption?_encodeOption h]

theorem plain_members (jdk : DownloadableJdk) :
    ∀ member ∈ jdk.members, Plain (depth + 1) member.2 := by
  simp only [members, List.forall_mem_cons]
  exact ⟨Vendor.plain_encodeOption _, .string _, .string _, .string _,
    Version.plain_encodeOption _, .string _, .bool _, jdk.package.plain_encode, nofun⟩

end DownloadableJdk

/-! ## §3 Candidates of all sources -/

namespace Candidate

/-- The source of a record is its one member of that name, and the others are the record. -/
theorem splitSource?_cons {members : List (String × Json)} (source : String)
    (h : ∀ member ∈ members, member.1 ≠ "source") :
    splitSource? (.object (("source", .string source) :: members)) =
      some (source, .object members) := by
  have hsource : members.filter (·.1 == "source") = [] :=
    List.filter_eq_nil_iff.mpr fun member hmember => by simpa using h member hmember
  have hothers : members.filter (·.1 != "source") = members :=
    List.filter_eq_self.mpr fun member hmember => by simpa using h member hmember
  have hsources : (("source", Json.string source) :: members).filter (·.1 == "source") =
      [("source", .string source)] := by
    rw [List.filter_cons_of_pos (by simp), hsource]
  have hrecord : (("source", Json.string source) :: members).filter (·.1 != "source") =
      members := by
    rw [List.filter_cons_of_neg (by simp), hothers]
  simp only [splitSource?, hsources, hrecord]

theorem plain_encode (candidate : Candidate) : Plain (depth + 2) candidate.encode := by
  cases candidate with
  | registered jdk =>
    exact .object (List.forall_mem_cons.mpr ⟨.string _, jdk.plain_members⟩)
  | detected jdk =>
    exact .object (List.forall_mem_cons.mpr ⟨.string _, jdk.plain_members⟩)
  | downloadable jdk =>
    exact .object (List.forall_mem_cons.mpr ⟨.string _, jdk.plain_members⟩)

/-- A candidate is read as what it was, and as one of the same source. -/
theorem decode?_encode (candidate : Candidate) : decode? candidate.encode = some candidate := by
  have hreadable : candidate.encode.readable = true := (@plain_encode 0 candidate).readable
  have hvendor := Vendor.knowsWords_decodeLoosely?
  rw [decode?, hreadable]
  -- No record of a single source has a member that could be taken for the source.
  cases candidate with
  | registered jdk =>
    have hnone : ∀ member ∈ jdk.members, member.1 ≠ "source" := by simp [RegisteredJdk.members]
    rw [encode, splitSource?_cons "registered" hnone]
    simp [jdk.decodeWith?_members hvendor]
  | detected jdk =>
    have hnone : ∀ member ∈ jdk.members, member.1 ≠ "source" := by simp [DetectedJdk.members]
    rw [encode, splitSource?_cons "local" hnone]
    simp [jdk.decodeWith?_members hvendor]
  | downloadable jdk =>
    have hnone : ∀ member ∈ jdk.members, member.1 ≠ "source" := by
      simp [DownloadableJdk.members]
    rw [encode, splitSource?_cons "downloadable" hnone]
    simp [jdk.decodeWith?_members hvendor]

end Candidate

/-! ## §4 Listings -/

namespace Report

/-- A list is read again from its document if each of its values is read from its record. -/
theorem read_document {α : Type} {encode : α → Json} {decode : Json → Option α}
    (hplain : ∀ value, Plain 126 (encode value))
    (hdecode : ∀ value, decode (encode value) = some value) (values : List α) :
    (Json.read? (document (.array (values.map encode))).toList).bind (Json.asList? decode) =
      some values := by
  have hitems : Plain Json.maxDepth (.array (values.map encode)) := by
    refine .array fun item hitem => ?_
    obtain ⟨value, -, rfl⟩ := List.mem_map.mp hitem
    exact hplain value
  -- The document stands on lines of its own, so a line break comes behind it.
  have hbreak : ∀ c ∈ ['\n'], JsonToken.isSpace c = true := by simp [JsonToken.isSpace]
  rw [document, String.toList_ofList, Json.read?_pretty_append hitems hbreak, Option.bind_some,
    Json.asList?_encode hdecode]

theorem read_registered_json (list : List RegisteredJdk) :
    (Json.read? (registered list .json).toList).bind (Json.asList? RegisteredJdk.decode?) =
      some list :=
  read_document (fun jdk => .object jdk.plain_members)
    (RegisteredJdk.decodeWith?_members Vendor.knowsWords_decode?) list

theorem read_detected_json (list : List DetectedJdk) :
    (Json.read? (detected list .json).toList).bind (Json.asList? DetectedJdk.decode?) =
      some list :=
  read_document (fun jdk => .object jdk.plain_members)
    (DetectedJdk.decodeWith?_members Vendor.knowsWords_decode?) list

theorem read_catalog_json (list : List DownloadableJdk) :
    (Json.read? (catalog list .json).toList).bind (Json.asList? DownloadableJdk.decode?) =
      some list :=
  read_document (fun jdk => .object jdk.plain_members)
    (DownloadableJdk.decodeWith?_members Vendor.knowsWords_decode?) list

/-- The candidates for a requirement, of all sources, are read again as they were. -/
theorem read_candidates_json (list : List Candidate) :
    (Json.read? (candidates list .json).toList).bind (Json.asList? Candidate.decode?) =
      some list :=
  read_document Candidate.plain_encode Candidate.decode?_encode list

end Report

end JdkFinder
