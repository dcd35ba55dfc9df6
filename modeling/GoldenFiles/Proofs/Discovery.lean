import GoldenFiles.Discovery
import GoldenFiles.Proofs.FileSystem.Listing
import GoldenFiles.Proofs.Naming.Names
import GoldenFiles.Proofs.Naming.Order
import GoldenFiles.Proofs.Sorting

/-!
# What discovery finds

A line of a listing is a fixture, or a rejection, or neither, and which of them
it is depends on that line alone. So what discovery finds is described by saying
which lines it comes from, apart from its order; and the order is no choice
either. Identifiers and paths can both be read off names, and no name is listed
twice, so neither list has two items with equal keys and both ascend strictly.
-/

namespace GoldenFiles

/-- A line that shows a regular file whose name is a text. -/
structure Listed.IsFile (listed : Listed) (name : String) : Prop where
  entry : ∃ content executable, listed.entry = .file content executable
  name_eq : listed.name = Utf8.encode name

namespace Discovery

variable {scheme : Scheme} {fs gs : FileSystem} {dir : Path} {loc : Location}
  {listing other : List Listed}

theorem judge_eq (scheme : Scheme) {listed : Listed} {name : String} (h : listed.IsFile name) :
    judge scheme listed =
      match scheme.classify name with
      | .unrelated => none
      | .fixture id => some (.inl ⟨id, listed.path⟩)
      | .malformed why => some (.inr ⟨listed.path, why.message scheme⟩) := by
  obtain ⟨content, executable, he⟩ := h.entry
  unfold judge
  rewrite [he, (Utf8.decode?_eq_some_iff _ _).mpr h.name_eq]
  rfl

theorem isFile_of_judge {listed : Listed} {found : Fixture ⊕ Rejected}
    (h : judge scheme listed = some found) : ∃ name, listed.IsFile name := by
  unfold judge at h
  split at h
  · next content executable name he hname =>
      exact ⟨name, ⟨_, _, he⟩, (Utf8.decode?_eq_some_iff _ _).mp hname⟩
  · cases h

theorem judge_eq_inl_iff (scheme : Scheme) (listed : Listed) (fixture : Fixture) :
    judge scheme listed = some (.inl fixture) ↔ ∃ name, listed.IsFile name ∧
      scheme.classify name = .fixture fixture.id ∧ fixture.input = listed.path := by
  obtain ⟨id, input⟩ := fixture
  constructor
  · intro h
    obtain ⟨name, hfile⟩ := isFile_of_judge h
    rw [judge_eq scheme hfile] at h
    refine ⟨name, hfile, ?_⟩
    split at h
    · cases h
    · next hc =>
        obtain ⟨rfl, rfl⟩ := Fixture.mk.inj (Sum.inl.inj (Option.some.inj h))
        exact ⟨hc, rfl⟩
    · cases h
  · rintro ⟨name, hfile, hc, rfl⟩
    rw [judge_eq scheme hfile, hc]

theorem judge_eq_inr_iff (scheme : Scheme) (listed : Listed) (rejected : Rejected) :
    judge scheme listed = some (.inr rejected) ↔ ∃ name why, listed.IsFile name ∧
      scheme.classify name = .malformed why ∧ rejected = ⟨listed.path, why.message scheme⟩ := by
  constructor
  · intro h
    obtain ⟨name, hfile⟩ := isFile_of_judge h
    rw [judge_eq scheme hfile] at h
    split at h
    · cases h
    · cases h
    · next why hc => exact ⟨name, why, hfile, hc, (Sum.inr.inj (Option.some.inj h)).symm⟩
  · rintro ⟨name, why, hfile, hc, rfl⟩
    rw [judge_eq scheme hfile, hc]

/-- The fixtures among listed entries, in listing order. -/
def fixturesIn (scheme : Scheme) (listing : List Listed) : List Fixture :=
  (listing.filterMap (judge scheme)).filterMap Sum.getLeft?

/-- The rejections among listed entries, in listing order. -/
def rejectedIn (scheme : Scheme) (listing : List Listed) : List Rejected :=
  (listing.filterMap (judge scheme)).filterMap Sum.getRight?

theorem fixtures_ofListing (scheme : Scheme) (listing : List Listed) :
    (ofListing scheme listing).fixtures = sortedBy Fixture.id (fixturesIn scheme listing) := rfl

theorem rejected_ofListing (scheme : Scheme) (listing : List Listed) :
    (ofListing scheme listing).rejected = sortedBy Rejected.path (rejectedIn scheme listing) := rfl

theorem mem_fixtures_iff (scheme : Scheme) (listing : List Listed) (fixture : Fixture) :
    fixture ∈ (ofListing scheme listing).fixtures ↔
      ∃ listed ∈ listing, judge scheme listed = some (.inl fixture) := by
  rw [fixtures_ofListing, mem_sortedBy, fixturesIn, List.filterMap_filterMap, List.mem_filterMap]
  simp only [Option.bind_eq_some_iff, Sum.getLeft?_eq_some_iff, exists_eq_right]

theorem mem_rejected_iff (scheme : Scheme) (listing : List Listed) (rejected : Rejected) :
    rejected ∈ (ofListing scheme listing).rejected ↔
      ∃ listed ∈ listing, judge scheme listed = some (.inr rejected) := by
  rw [rejected_ofListing, mem_sortedBy, rejectedIn, List.filterMap_filterMap, List.mem_filterMap]
  simp only [Option.bind_eq_some_iff, Sum.getRight?_eq_some_iff, exists_eq_right]

/-! ## No two items with equal keys -/

/-- A property of the lines that any two items come from is one of the items. -/
theorem pairwise_found {α : Type _} {pick : Fixture ⊕ Rejected → Option α} {r : α → α → Prop}
    (h : (listing.map Listed.name).Nodup)
    (apart : ∀ l ∈ listing, ∀ m ∈ listing, l.name ≠ m.name → ∀ a b,
      (judge scheme l).bind pick = some a → (judge scheme m).bind pick = some b → r a b) :
    ((listing.filterMap (judge scheme)).filterMap pick).Pairwise r := by
  rw [List.filterMap_filterMap, List.pairwise_filterMap]
  refine (List.pairwise_map.mp h).imp_of_mem fun {l m} hl hm hne a ha b hb => ?_
  exact apart l hl m hm hne a b ha hb

theorem keysDiffer_fixtures (h : (listing.map Listed.name).Nodup) :
    KeysDiffer Fixture.id (fixturesIn scheme listing) := by
  refine pairwise_found h fun l _ m _ hne f g hf hg heq => hne ?_
  simp only [Option.bind_eq_some_iff, Sum.getLeft?_eq_some_iff, exists_eq_right,
    judge_eq_inl_iff] at hf hg
  obtain ⟨name, hl, hname, -⟩ := hf
  obtain ⟨name', hm, hname', -⟩ := hg
  have hid : f.id = g.id := Std.LawfulEqOrd.eq_of_compare heq
  rw [hl.name_eq, hm.name_eq, Scheme.inputName_of_classify hname,
    Scheme.inputName_of_classify hname', hid]

theorem keysDiffer_rejected (wf : fs.WellFormed) (h : fs.Lists dir loc listing) :
    KeysDiffer Rejected.path (rejectedIn scheme listing) := by
  refine pairwise_found h.nodup fun l hl m hm hne r r' hr hr' heq => hne ?_
  simp only [Option.bind_eq_some_iff, Sum.getRight?_eq_some_iff, exists_eq_right,
    judge_eq_inr_iff] at hr hr'
  obtain ⟨name, why, -, -, rfl⟩ := hr
  obtain ⟨name', why', -, -, rfl⟩ := hr'
  have hsame := Path.same_of_compare heq
  simp only [h.path_eq hl, h.path_eq hm] at hsame
  rw [Path.Same, Path.components_join (h.entryName wf hl).toNormalName,
    Path.components_join (h.entryName wf hm).toNormalName] at hsame
  simpa using hsame

theorem ascending_fixtures (h : fs.Lists dir loc listing) :
    Ascending Fixture.id (ofListing scheme listing).fixtures :=
  ascending_sortedBy (keysDiffer_fixtures h.nodup)

theorem ascending_rejected (wf : fs.WellFormed) (h : fs.Lists dir loc listing) :
    Ascending Rejected.path (ofListing scheme listing).rejected :=
  ascending_sortedBy (keysDiffer_rejected wf h)

/-- The order of a listing does not show in the fixtures. -/
theorem fixtures_perm (h : (listing.map Listed.name).Nodup) (hp : listing.Perm other) :
    (ofListing scheme listing).fixtures = (ofListing scheme other).fixtures :=
  sortedBy_eq_of_perm (keysDiffer_fixtures h) ((hp.filterMap (judge scheme)).filterMap _)

/-- The order of a listing does not show in what is found. -/
theorem ofListing_perm (wf : fs.WellFormed) (h : fs.Lists dir loc listing)
    (hp : listing.Perm other) : ofListing scheme listing = ofListing scheme other := by
  have hrej : (ofListing scheme listing).rejected = (ofListing scheme other).rejected :=
    sortedBy_eq_of_perm (keysDiffer_rejected wf h) ((hp.filterMap (judge scheme)).filterMap _)
  rw [Discovery.mk.injEq]
  exact ⟨fixtures_perm h.nodup hp, hrej⟩

/-- Listings whose lines come to the same things have the same fixtures and rejections. -/
theorem ofListing_eq_of_judged (wf : fs.WellFormed) (wf' : gs.WellFormed)
    (h : fs.Lists dir loc listing) (h' : gs.Lists dir loc other)
    (judged : ∀ found, (∃ l ∈ listing, judge scheme l = some found) ↔
      ∃ l ∈ other, judge scheme l = some found) :
    ofListing scheme listing = ofListing scheme other := by
  have hfix : (ofListing scheme listing).fixtures = (ofListing scheme other).fixtures := by
    refine (ascending_fixtures h).eq_of_mem_iff (ascending_fixtures h') fun fixture => ?_
    rw [mem_fixtures_iff, mem_fixtures_iff, judged]
  have hrej : (ofListing scheme listing).rejected = (ofListing scheme other).rejected := by
    refine (ascending_rejected wf h).eq_of_mem_iff (ascending_rejected wf' h') fun rejected => ?_
    rw [mem_rejected_iff, mem_rejected_iff, judged]
  rw [Discovery.mk.injEq]
  exact ⟨hfix, hrej⟩

/-- Listings that show the same regular files have the same fixtures and rejections. -/
theorem ofListing_eq_of_files (wf : fs.WellFormed) (wf' : gs.WellFormed)
    (h : fs.Lists dir loc listing) (h' : gs.Lists dir loc other)
    (files : ∀ listed content executable, listed.entry = .file content executable →
      (listed ∈ listing ↔ listed ∈ other)) :
    ofListing scheme listing = ofListing scheme other := by
  refine ofListing_eq_of_judged wf wf' h h' fun found => exists_congr fun l => ?_
  refine and_congr_left fun hfound => ?_
  obtain ⟨name, ⟨content, executable, he⟩, -⟩ := isFile_of_judge hfound
  exact files l content executable he

end Discovery

/-- A host that can match the names that begin with the input marker. -/
def Host.Matches (host : Host) (scheme : Scheme) : Prop :=
  host.patternFault? scheme.inputMarker = none

/-- A host that refuses nothing matches the names of all schemes. -/
theorem Host.matches_default (scheme : Scheme) : Host.Matches {} scheme := rfl

theorem discover_eq_ok_iff (fs : FileSystem) (dir : Path) (scheme : Scheme) (host : Host)
    (found : Discovery) : discover fs dir scheme host = .ok found ↔
      host.Matches scheme ∧ ∃ loc listing,
        dir.access (fs.stat dir) = .ok (loc, .directory) ∧ fs.Lists dir loc listing ∧
          found = Discovery.ofListing scheme listing := by
  unfold discover
  constructor
  · intro h
    split at h
    · cases h
    · cases h
    · cases h
    · next listing hl matched =>
        obtain ⟨loc, hdir, hlists⟩ := (FileSystem.list_eq_ok_iff ..).mp hl
        exact ⟨matched, loc, listing, hdir, hlists, (Except.ok.inj h).symm⟩
  · rintro ⟨matched, loc, listing, hdir, hlists, rfl⟩
    rw [(FileSystem.list_eq_ok_iff ..).mpr ⟨loc, hdir, hlists⟩, matched]

/-- What is found in a listing whose fixtures and rejections are in their order already. -/
theorem discover_of_list {fs : FileSystem} {dir : Path} {scheme : Scheme} {host : Host}
    {listing : List Listed} (matched : host.Matches scheme) (h : fs.list dir = .ok listing)
    (hf : Ascending Fixture.id (Discovery.fixturesIn scheme listing))
    (hr : Ascending Rejected.path (Discovery.rejectedIn scheme listing)) :
    discover fs dir scheme host =
      .ok ⟨Discovery.fixturesIn scheme listing, Discovery.rejectedIn scheme listing⟩ := by
  rw [discover, h, matched]
  refine congrArg Except.ok ?_
  rw [Discovery.mk.injEq, Discovery.fixtures_ofListing, Discovery.rejected_ofListing]
  exact ⟨sortedBy_of_ascending hf, sortedBy_of_ascending hr⟩

end GoldenFiles
