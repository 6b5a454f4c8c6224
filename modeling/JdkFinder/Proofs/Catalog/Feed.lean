import JdkFinder.Feed
import JdkFinder.Proofs.Json.Document
import JdkFinder.Proofs.Json.Record

/-!
# What a feed offers

A text is a feed exactly if it is a JSON document that describes a list of elements
(`Feed.Lists`).  It offers what its elements offer one by one: an element that describes an entry
offers a JDK for every package of the platform, and any other one offers nothing (`Feed.Offers`,
`Feed.parse_entry_by_entry`).
-/

namespace JdkFinder

/-! ## §1 What an element describes -/

/-- An element describes a package. -/
structure FeedPackage.DescribedBy (j : Json) (package : FeedPackage) : Prop where
  isRecord : j.IsRecord 7
  os : j.Given ["os"] 0 (.string package.os)
  arch : j.Given ["arch"] 1 (.string package.arch)
  packageType : j.Given ["package_type"] 2 (.string package.packageType) ∨
    j.Absent ["package_type"] 2 ∧ package.packageType = ""
  url : j.Given ["url"] 3 (.string package.url)
  sha256 : j.Given ["sha256"] 4 (.text? package.sha256) ∨
    j.Absent ["sha256"] 4 ∧ package.sha256 = none
  size : (∃ n : JsonNumber, j.Given ["size", "archive_size"] 5 (.number n) ∧
      n.toNat? = some package.size.toNat) ∨
    j.Absent ["size", "archive_size"] 5 ∧ package.size = 0
  unpackPrefix : j.Given ["unpack_prefix", "unpack_prefix_filter"] 6 (.text? package.unpackPrefix) ∨
    j.Absent ["unpack_prefix", "unpack_prefix_filter"] 6 ∧ package.unpackPrefix = none

/-- An element describes an entry. -/
structure FeedEntry.DescribedBy (j : Json) (entry : FeedEntry) : Prop where
  isRecord : j.IsRecord 5
  vendor : j.Given ["vendor"] 0 (.string entry.vendor)
  product : j.Given ["product"] 1 (.string entry.product) ∨
    j.Absent ["product"] 1 ∧ entry.product = ""
  version : j.Given ["jdk_version"] 2 (.string entry.version)
  suggestedName : j.Given ["suggested_sdk_name"] 3 (.text? entry.suggestedName) ∨
    j.Absent ["suggested_sdk_name"] 3 ∧ entry.suggestedName = none
  packages : (∃ items, j.Given ["packages"] 4 (.array items) ∧
      List.Forall₂ FeedPackage.DescribedBy items entry.packages) ∨
    j.Absent ["packages"] 4 ∧ entry.packages = []

/-- A package is read from an element exactly if the element describes it. -/
theorem FeedPackage.decode?_eq_some_iff {j : Json} {package : FeedPackage} :
    decode? j = some package ↔ DescribedBy j package := by
  constructor
  · intro h
    obtain ⟨slots, hslots, hfields⟩ := Option.bind_eq_some_iff.mp h
    -- There are as many slots as fields, and each of them is read as its field.
    obtain ⟨hrecord, hall⟩ := Json.slots?_eq_some_iff.mp hslots
    rcases hall with _ | ⟨hos, _ | ⟨harch, _ | ⟨htype, _ | ⟨hurl, _ | ⟨hsha, _ | ⟨hsize, _ |
      ⟨hunpack, _ | _⟩⟩⟩⟩⟩⟩⟩
    simp only [Option.bind_eq_bind, Option.bind_eq_some_iff, Option.some_inj] at hfields
    obtain ⟨os, hos', arch, harch', packageType, htype', url, hurl', sha256, hsha', size, hsize',
      unpackPrefix, hunpack', rfl⟩ := hfields
    exact
      { isRecord := hrecord
        os := Json.required?_asText?_iff.mp ⟨_, hos, hos'⟩
        arch := Json.required?_asText?_iff.mp ⟨_, harch, harch'⟩
        packageType := Json.default?_asText?_iff.mp ⟨_, htype, htype'⟩
        url := Json.required?_asText?_iff.mp ⟨_, hurl, hurl'⟩
        sha256 := Json.default?_asOption?_iff.mp ⟨_, hsha, hsha'⟩
        size := Json.default?_asWord64?_iff.mp ⟨_, hsize, hsize'⟩
        unpackPrefix := Json.default?_asOption?_iff.mp ⟨_, hunpack, hunpack'⟩ }
  · intro h
    -- What is said of the fields gives slots that can be read as them.
    obtain ⟨_, hos, hos'⟩ := Json.required?_asText?_iff.mpr h.os
    obtain ⟨_, harch, harch'⟩ := Json.required?_asText?_iff.mpr h.arch
    obtain ⟨_, htype, htype'⟩ := Json.default?_asText?_iff.mpr h.packageType
    obtain ⟨_, hurl, hurl'⟩ := Json.required?_asText?_iff.mpr h.url
    obtain ⟨_, hsha, hsha'⟩ := Json.default?_asOption?_iff.mpr h.sha256
    obtain ⟨_, hsize, hsize'⟩ := Json.default?_asWord64?_iff.mpr h.size
    obtain ⟨_, hunpack, hunpack'⟩ := Json.default?_asOption?_iff.mpr h.unpackPrefix
    refine Option.bind_eq_some_iff.mpr ⟨_, Json.slots?_eq_some_iff.mpr ⟨h.isRecord,
      .cons hos (.cons harch (.cons htype (.cons hurl (.cons hsha (.cons hsize
        (.cons hunpack .nil))))))⟩, ?_⟩
    simp only [Option.bind_eq_bind, Option.bind_some, hos', harch', htype', hurl', hsha', hsize',
      hunpack']

/-- An entry is read from an element exactly if the element describes it. -/
theorem FeedEntry.decode?_eq_some_iff {j : Json} {entry : FeedEntry} :
    decode? j = some entry ↔ DescribedBy j entry := by
  have hpackages (items : List Json) :
      List.Forall₂ (fun item package => FeedPackage.decode? item = some package) items
        entry.packages ↔ List.Forall₂ FeedPackage.DescribedBy items entry.packages := by
    simp only [FeedPackage.decode?_eq_some_iff]
  constructor
  · intro h
    obtain ⟨slots, hslots, hfields⟩ := Option.bind_eq_some_iff.mp h
    obtain ⟨hrecord, hall⟩ := Json.slots?_eq_some_iff.mp hslots
    -- There are as many slots as fields; the last one is a list of packages.
    rcases hall with _ | ⟨hvendor, _ | ⟨hproduct, _ | ⟨hversion, _ | ⟨hname, _ | ⟨hlist, _ |
      _⟩⟩⟩⟩⟩
    simp only [Option.bind_eq_bind, Option.bind_eq_some_iff, Option.some_inj] at hfields
    obtain ⟨vendor, hvendor', product, hproduct', version, hversion', suggestedName, hname',
      packages, hlist', rfl⟩ := hfields
    have hdescribed := Json.default?_asList?_iff.mp ⟨_, hlist, hlist'⟩
    simp only [FeedPackage.decode?_eq_some_iff] at hdescribed
    exact
      { isRecord := hrecord
        vendor := Json.required?_asText?_iff.mp ⟨_, hvendor, hvendor'⟩
        product := Json.default?_asText?_iff.mp ⟨_, hproduct, hproduct'⟩
        version := Json.required?_asText?_iff.mp ⟨_, hversion, hversion'⟩
        suggestedName := Json.default?_asOption?_iff.mp ⟨_, hname, hname'⟩
        packages := hdescribed }
  · intro h
    have hdescribed := h.packages
    simp only [← hpackages] at hdescribed
    obtain ⟨_, hvendor, hvendor'⟩ := Json.required?_asText?_iff.mpr h.vendor
    obtain ⟨_, hproduct, hproduct'⟩ := Json.default?_asText?_iff.mpr h.product
    obtain ⟨_, hversion, hversion'⟩ := Json.required?_asText?_iff.mpr h.version
    obtain ⟨_, hname, hname'⟩ := Json.default?_asOption?_iff.mpr h.suggestedName
    obtain ⟨_, hlist, hlist'⟩ := Json.default?_asList?_iff.mpr hdescribed
    refine Option.bind_eq_some_iff.mpr ⟨_, Json.slots?_eq_some_iff.mpr ⟨h.isRecord,
      .cons hvendor (.cons hproduct (.cons hversion (.cons hname (.cons hlist .nil))))⟩, ?_⟩
    simp only [Option.bind_eq_bind, Option.bind_some, hvendor', hproduct', hversion', hname',
      hlist']

/-! ## §2 What elements offer -/

/-- An entry offers a JDK for one of its packages. -/
structure FeedEntry.OffersAs (entry : FeedEntry) (package : FeedPackage) (jdk : DownloadableJdk) :
    Prop where
  vendorName : jdk.vendorName = entry.vendor
  product : jdk.product = entry.product
  versionText : jdk.versionText = entry.version
  /-- The version is the one that the version text writes. -/
  version : jdk.version = Version.parse? entry.version.toList
  longTerm : jdk.longTerm = true ↔ ∃ v, jdk.version = some v ∧ v.feature ∈ [8, 11, 17, 21, 25]
  suggestedName : ∀ name, entry.suggestedName = some name → jdk.suggestedName = name
  package : jdk.package = ⟨Platform.usualOs package.os, Platform.usualArch package.arch,
    package.packageType, package.url, package.sha256, package.size, package.unpackPrefix⟩

theorem FeedEntry.offersAs_offer (entry : FeedEntry) (package : FeedPackage) :
    entry.OffersAs package (entry.offer package) where
  vendorName := rfl
  product := rfl
  versionText := rfl
  version := rfl
  longTerm := by
    show (Version.parse? entry.version.toList).any Version.isLongTerm = true ↔ _
    rw [Option.any_eq_true]
    apply exists_congr
    intro v
    rw [Version.isLongTerm, List.contains_iff_mem]
    rfl
  suggestedName name hname := by
    rw [offer, DownloadableJdk.ofPackage, hname]
    rfl
  package := rfl

namespace Feed

/-- A document is a feed with the given elements: the values of the items of its one list. -/
structure Lists (j : Json) (elements : List Json) : Prop where
  isRecord : j.IsRecord 1
  jdks : (∃ items, j.Given ["jdks"] 0 (.array items) ∧
      List.Forall₂ (fun item element => item.value? = some element) items elements) ∨
    j.Absent ["jdks"] 0 ∧ elements = []

/-- What an element of a feed offers for a platform: a JDK for each package that names it, if the
element describes an entry, and nothing otherwise. -/
inductive Offers (platform : Platform) (element : Json) : List DownloadableJdk → Prop where
  | entry {entry : FeedEntry} (h : FeedEntry.DescribedBy element entry) :
      Offers platform element
        ((entry.packages.filter fun package => Platform.usualOs package.os = platform.os ∧
          Platform.usualArch package.arch = platform.arch).map entry.offer)
  | skipped (h : ∀ entry, ¬ FeedEntry.DescribedBy element entry) : Offers platform element []

section Elements

variable {platform : Platform} {text : String} {j : Json} {element : Json} {elements : List Json}
  {jdks : List DownloadableJdk}

/-- The elements are read exactly from the documents that are feeds. -/
theorem elements?_eq_some_iff : elements? j = some elements ↔ Lists j elements := by
  constructor
  · intro h
    obtain ⟨slots, hslots, hlist⟩ := Option.bind_eq_some_iff.mp h
    obtain ⟨hrecord, hall⟩ := Json.slots?_eq_some_iff.mp hslots
    rcases hall with _ | ⟨hjdks, _ | _⟩
    exact ⟨hrecord, Json.default?_asList?_iff.mp ⟨_, hjdks, hlist⟩⟩
  · rintro ⟨hrecord, hjdks⟩
    obtain ⟨_, hslot, hlist⟩ := Json.default?_asList?_iff.mpr hjdks
    exact Option.bind_eq_some_iff.mpr
      ⟨_, Json.slots?_eq_some_iff.mpr ⟨hrecord, .cons hslot .nil⟩, hlist⟩

theorem offersOf_nil : offersOf platform [] = [] :=
  rfl

theorem offersOf_cons : offersOf platform (element :: elements) =
    offersOf platform [element] ++ offersOf platform elements := by
  unfold offersOf
  rw [List.filterMap_cons]
  cases hentry : FeedEntry.decode? element with
  | none => simp [hentry]
  | some entry => simp [hentry]

theorem offersOf_append (front back : List Json) :
    offersOf platform (front ++ back) = offersOf platform front ++ offersOf platform back := by
  rw [offersOf, List.filterMap_append, List.flatMap_append]
  rfl

/-- An element alone offers what it offers. -/
theorem offers_iff : Offers platform element jdks ↔ jdks = offersOf platform [element] := by
  have hnamed (package : FeedPackage) : platform.isNamed package.os package.arch =
      decide (Platform.usualOs package.os = platform.os ∧
        Platform.usualArch package.arch = platform.arch) := by
    rw [Platform.isNamed, Bool.decide_and, beq_eq_decide, beq_eq_decide]
  cases hentry : FeedEntry.decode? element with
  | none =>
    have hnot (entry : FeedEntry) : ¬ FeedEntry.DescribedBy element entry := by
      rw [← FeedEntry.decode?_eq_some_iff, hentry]
      simp
    have hnothing : offersOf platform [element] = [] := by
      simp [offersOf, hentry]
    rw [hnothing]
    constructor
    · intro h
      cases h with
      | entry hdescribed => exact absurd hdescribed (hnot _)
      | skipped => rfl
    · rintro rfl
      exact .skipped hnot
  | some entry =>
    have hdescribed := FeedEntry.decode?_eq_some_iff.mp hentry
    have hoffers : offersOf platform [element] =
        (entry.packages.filter fun package => Platform.usualOs package.os = platform.os ∧
          Platform.usualArch package.arch = platform.arch).map entry.offer := by
      simp [offersOf, hentry, FeedEntry.offers, hnamed]
    rw [hoffers]
    constructor
    · intro h
      cases h with
      | entry hother =>
        -- An element describes one entry at most.
        rw [← FeedEntry.decode?_eq_some_iff, hentry] at hother
        cases hother
        rfl
      | skipped hnot => exact absurd hdescribed (hnot entry)
    · rintro rfl
      exact .entry hdescribed

/-- A feed offers what its elements offer, one after the other. -/
theorem offersOf_eq_iff : offersOf platform elements = jdks ↔
    ∃ parts, List.Forall₂ (Offers platform) elements parts ∧ jdks = parts.flatten := by
  -- On the elements, each of which offers the first part of what is offered.
  induction elements generalizing jdks with
  | nil =>
    simp only [List.forall₂_nil_left_iff, exists_eq_left, List.flatten_nil, offersOf_nil, eq_comm]
  | cons element elements ih =>
    rw [offersOf_cons]
    constructor
    · rintro rfl
      obtain ⟨parts, hparts, hrest⟩ := ih.mp rfl
      exact ⟨_, .cons (offers_iff.mpr rfl) hparts, by rw [List.flatten_cons, hrest]⟩
    · rintro ⟨_, hall, rfl⟩
      cases hall with
      | cons hfirst hrest =>
        rw [List.flatten_cons, offers_iff.mp hfirst, ih.mpr ⟨_, hrest, rfl⟩]

/-- Elements that describe no entry offer nothing. -/
theorem offersOf_eq_nil
    (h : ∀ element ∈ elements, ∀ entry, ¬ FeedEntry.DescribedBy element entry) :
    offersOf platform elements = [] := by
  have hnone : elements.filterMap FeedEntry.decode? = [] := by
    rw [List.filterMap_eq_nil_iff]
    intro element hmem
    rw [Option.eq_none_iff_forall_ne_some]
    exact fun entry hentry => h element hmem entry (FeedEntry.decode?_eq_some_iff.mp hentry)
  rw [offersOf, hnone]
  rfl

/-! ## §3 Whole feeds -/

theorem parse_of_lists (hread : Json.read? text.toList = some j) (hlists : Lists j elements) :
    parse text platform = .ok (offersOf platform elements) := by
  rw [parse, hread, Option.bind_some, elements?_eq_some_iff.mpr hlists]

/-- What is not read as a feed fails. -/
theorem parse_of_not_lists
    (h : ¬ ∃ j elements, Json.read? text.toList = some j ∧ Lists j elements) :
    ∃ e, parse text platform = .error e := by
  unfold parse
  split
  · rename_i elements helements
    obtain ⟨j, hread, hlist⟩ := Option.bind_eq_some_iff.mp helements
    exact absurd ⟨j, elements, hread, elements?_eq_some_iff.mp hlist⟩ h
  · exact ⟨_, rfl⟩

end Elements

/-- A text gives the list of the offers of its elements, in their order, exactly if it is a document
that is a feed, and fails otherwise.  Elements that describe no entry may be put in, taken out and
replaced by others.  Every JDK in the list is offered by an entry with a package of the platform. -/
theorem parse_entry_by_entry (text : String) (platform : Platform) :
    (∀ jdks, parse text platform = .ok jdks ↔ ∃ j elements parts,
      Json.read? text.toList = some j ∧ Lists j elements ∧
        List.Forall₂ (Offers platform) elements parts ∧ jdks = parts.flatten) ∧
    ((∃ e, parse text platform = .error e) ↔
      ¬ ∃ j elements, Json.read? text.toList = some j ∧ Lists j elements) ∧
    (∀ other j j' front middle middle' back,
      Json.read? text.toList = some j → Lists j (front ++ middle ++ back) →
      Json.read? other.toList = some j' → Lists j' (front ++ middle' ++ back) →
      (∀ element ∈ middle ++ middle', ∀ entry, ¬ FeedEntry.DescribedBy element entry) →
        parse other platform = parse text platform) ∧
    ∀ j elements jdks, Json.read? text.toList = some j → Lists j elements →
      parse text platform = .ok jdks → ∀ jdk ∈ jdks, ∃ element ∈ elements, ∃ entry,
        FeedEntry.DescribedBy element entry ∧ ∃ package ∈ entry.packages,
          entry.OffersAs package jdk ∧
            jdk.package.os = platform.os ∧ jdk.package.arch = platform.arch := by
  refine ⟨?_, ?_, ?_, ?_⟩
  · intro jdks
    constructor
    · intro h
      -- The text either lists elements, whose offers are then the answer, or it is no feed and the
      -- parse fails.
      by_cases hfeed : ∃ j elements, Json.read? text.toList = some j ∧ Lists j elements
      · obtain ⟨j, elements, hread, hlists⟩ := hfeed
        rw [parse_of_lists hread hlists] at h
        obtain ⟨parts, hparts⟩ := offersOf_eq_iff.mp (Except.ok.inj h)
        exact ⟨j, elements, parts, hread, hlists, hparts⟩
      · obtain ⟨e, he⟩ := parse_of_not_lists hfeed
        rw [he] at h
        cases h
    · rintro ⟨j, elements, parts, hread, hlists, hparts⟩
      rw [parse_of_lists hread hlists, offersOf_eq_iff.mpr ⟨parts, hparts⟩]
  · constructor
    · rintro ⟨e, he⟩ ⟨j, elements, hread, hlists⟩
      rw [parse_of_lists hread hlists] at he
      cases he
    · exact parse_of_not_lists
  · intro other j j' front middle middle' back hread hlists hread' hlists' hnone
    -- Neither of the exchanged stretches holds an element that decodes, so neither offers anything.
    have hmiddle : offersOf platform middle = [] :=
      offersOf_eq_nil fun element hmem => hnone element (List.mem_append_left _ hmem)
    have hmiddle' : offersOf platform middle' = [] :=
      offersOf_eq_nil fun element hmem => hnone element (List.mem_append_right _ hmem)
    rw [parse_of_lists hread hlists, parse_of_lists hread' hlists']
    simp only [offersOf_append, hmiddle, hmiddle']
  · intro j elements jdks hread hlists hparse jdk hjdk
    rw [parse_of_lists hread hlists] at hparse
    -- The answer is a concatenation of filtered lists: the JDK is traced back through both to its
    -- element.
    obtain rfl := Except.ok.inj hparse
    obtain ⟨entry, hentry, hoffer⟩ := List.mem_flatMap.mp hjdk
    obtain ⟨element, helement, hdecode⟩ := List.mem_filterMap.mp hentry
    obtain ⟨package, hpackage, rfl⟩ := List.mem_map.mp hoffer
    obtain ⟨hmem, hnamed⟩ := List.mem_filter.mp hpackage
    rw [Platform.isNamed, Bool.and_eq_true, beq_iff_eq, beq_iff_eq] at hnamed
    have hoffered := entry.offersAs_offer package
    have hplatform : (entry.offer package).package.os = platform.os ∧
        (entry.offer package).package.arch = platform.arch := by
      rw [hoffered.package]
      dsimp only
      exact hnamed
    exact ⟨element, helement, entry, FeedEntry.decode?_eq_some_iff.mp hdecode, package, hmem,
      hoffered, hplatform⟩

/-! ### A number among the entries -/

namespace StrayNumber

/-- An element that describes an entry with one package. -/
def element : Json :=
  .object
    [("jdk_version", .string "17"),
     ("packages", .array
       [.object [("arch", .string "amd64"), ("os", .string "Linux"), ("url", .string "u")]]),
     ("vendor", .string "Amazon")]

/-- A feed with the given elements. -/
def document (elements : List Json) : Json :=
  .object [("jdks", .array elements)]

def text (elements : List Json) : String :=
  String.ofList (document elements).pretty

theorem plain_element : Json.Plain 125 element := by
  refine .object fun field hfield => ?_
  simp only [List.mem_cons, List.not_mem_nil, or_false] at hfield
  rcases hfield with rfl | rfl | rfl
  · exact .string _
  · refine .array fun package hpackage => ?_
    obtain rfl := List.mem_singleton.mp hpackage
    refine .object fun field hfield => ?_
    simp only [List.mem_cons, List.not_mem_nil, or_false] at hfield
    rcases hfield with rfl | rfl | rfl <;> exact .string _
  · exact .string _

theorem read_text (elements : List Json) (h : ∀ element ∈ elements, Json.Plain 125 element) :
    Json.read? (text elements).toList = some (document elements) := by
  rw [text, String.toList_ofList]
  refine Json.read?_pretty (.object fun field hfield => ?_)
  obtain rfl := List.mem_singleton.mp hfield
  exact .array h

theorem lists_document {elements : List Json}
    (h : List.Forall₂ (fun item element => item.value? = some element) elements elements) :
    Lists (document elements) elements where
  isRecord := .object _
  jdks := by
    have hmember : (document elements).Given ["jdks"] 0 (.array elements) :=
      @Json.Given.member _ _ [] [] "jdks" _ (by simp) (by simp)
    exact .inl ⟨elements, hmember, h⟩

end StrayNumber

/-- A number in the place of an entry changes nothing. -/
theorem stray_number_is_skipped :
    parse (StrayNumber.text [.nat 1, StrayNumber.element]) ⟨"linux", "x64"⟩ =
        parse (StrayNumber.text [StrayNumber.element]) ⟨"linux", "x64"⟩ ∧
      ∃ jdk, parse (StrayNumber.text [StrayNumber.element]) ⟨"linux", "x64"⟩ = .ok [jdk] ∧
        jdk.package.os = "linux" := by
  have hread := StrayNumber.read_text [StrayNumber.element] fun element hmem => by
    obtain rfl := List.mem_singleton.mp hmem
    exact StrayNumber.plain_element
  have hstray := StrayNumber.read_text [.nat 1, StrayNumber.element] fun element hmem => by
    simp only [List.mem_cons, List.not_mem_nil, or_false] at hmem
    rcases hmem with rfl | rfl
    · exact .nat (by decide)
    · exact StrayNumber.plain_element
  have hlists : Lists (StrayNumber.document [StrayNumber.element]) [StrayNumber.element] :=
    StrayNumber.lists_document (.cons rfl .nil)
  have hlists' : Lists (StrayNumber.document [.nat 1, StrayNumber.element])
      [.nat 1, StrayNumber.element] :=
    StrayNumber.lists_document (.cons rfl (.cons rfl .nil))
  obtain ⟨-, -, hreplace, hoffers⟩ :=
    parse_entry_by_entry (StrayNumber.text [StrayNumber.element]) ⟨"linux", "x64"⟩
  constructor
  · refine hreplace _ _ _ [] [] [.nat 1] [StrayNumber.element] hread hlists hstray hlists' ?_
    -- The number that is exchanged is no record, so nothing describes it.
    intro element hmem entry hdescribed
    obtain rfl := List.mem_singleton.mp hmem
    cases hdescribed.isRecord
  · -- What the element offers is one JDK; the platform comes from the theorem, not from evaluation.
    have hlength : (offersOf ⟨"linux", "x64"⟩ [StrayNumber.element]).length = 1 := by
      decide
    obtain ⟨jdk, hjdk⟩ := List.length_eq_one_iff.mp hlength
    have hparse := @parse_of_lists ⟨"linux", "x64"⟩ _ _ _ hread hlists
    rw [hjdk] at hparse
    obtain ⟨_, _, _, _, _, _, _, hos, -⟩ :=
      hoffers _ _ _ hread hlists hparse jdk List.mem_cons_self
    exact ⟨jdk, hparse, hos⟩

end Feed

end JdkFinder
