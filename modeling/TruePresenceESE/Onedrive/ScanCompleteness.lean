import TruePresenceESE.Onedrive.Scanner
import Mathlib.Tactic

/-! # What a scan lists

The scan lists the image files that no dot-folder hides, and with them the dot-folders that
are called like an image. Where a folder stands at the path of the root, the root is scanned
once more in its place, and again inside of that.
-/

namespace TruePresenceESE.Onedrive

open Paging

namespace Listing

/-- A folder that is scanned stands where the scanner expects the root. -/
def Collides : FolderAt → Listing → Prop
  | _, nil => False
  | here, file _ rest => rest.Collides here
  | here, folder facts children rest =>
      (isDotName facts.name = false ∧ ((here.child facts.name).text = "/drive/root" ∨
        children.Collides (here.child facts.name))) ∨ rest.Collides here

/-- The drive without the folders that are taken for the root. -/
def apart : FolderAt → Listing → Listing
  | _, nil => nil
  | here, file facts rest => file facts (rest.apart here)
  | here, folder facts children rest =>
      if isDotName facts.name then folder facts children (rest.apart here)
      else if (here.child facts.name).text = "/drive/root" then rest.apart here
      else folder facts (children.apart (here.child facts.name)) (rest.apart here)

/-- What a scan lists, rightly or wrongly. -/
def Listed (here : FolderAt) (listing : Listing) (info : ItemInfo) : Prop :=
  info ∈ listing.images here ∨ info ∈ listing.imageDotFolders here

section
variable {here : FolderAt} {facts : ItemFacts} {children rest listing : Listing} {info : ItemInfo}

@[simp] theorem not_listed_nil : ¬ Listed here nil info := by simp [Listed, images, imageDotFolders]

@[simp] theorem listed_file : Listed here (file facts rest) info ↔
    (isImageFile facts.name = true ∧ info = here.infoOf facts) ∨ Listed here rest info := by
  simp only [Listed, images, imageDotFolders]
  split
  · next himage => simp [himage, or_assoc]
  · next himage => simp [himage]

theorem listed_dotFolder (hdot : isDotName facts.name = true) :
    Listed here (folder facts children rest) info ↔
      (isImageFile facts.name = true ∧ info = here.infoOf facts) ∨ Listed here rest info := by
  simp only [Listed, images, imageDotFolders, hdot, if_true]
  split
  · next himage => simp [himage, or_left_comm]
  · next himage => simp [himage]

theorem listed_folder (hdot : isDotName facts.name = false) :
    Listed here (folder facts children rest) info ↔
      Listed (here.child facts.name) children info ∨ Listed here rest info := by
  simp only [Listed, images, imageDotFolders, hdot, Bool.false_eq_true, if_false, List.mem_append]
  grind

theorem apart_eq_self (h : ¬ listing.Collides here) : listing.apart here = listing := by
  induction listing generalizing here with
  | nil => rfl
  | file facts rest ih => rw [apart, ih h]
  | folder facts children rest ihChildren ih =>
      rw [Collides, not_or, not_and, not_or] at h
      rw [apart, ih h.2]
      split
      · rfl
      · next hdot =>
          obtain ⟨hroot, hchildren⟩ := h.1 (by simpa using hdot)
          rw [if_neg hroot, ihChildren hchildren]

theorem mem_images_of_apart (h : info ∈ (listing.apart here).images here) :
    info ∈ listing.images here := by
  induction listing generalizing here with
  | nil => exact h
  | file facts rest ih =>
      rw [apart, images] at h
      rw [images]
      grind
  | folder facts children rest ihChildren ih =>
      rw [apart] at h
      rw [images]
      split at h
      · next hdot =>
          rw [images, if_pos hdot] at h
          rw [if_pos hdot]
          exact ih h
      · next hdot =>
          rw [if_neg hdot]
          split at h
          · exact List.mem_append_right _ (ih h)
          · rw [images, if_neg hdot] at h
            exact List.mem_append.mpr ((List.mem_append.mp h).imp ihChildren ih)

theorem mem_imageDotFolders_of_apart (h : info ∈ (listing.apart here).imageDotFolders here) :
    info ∈ listing.imageDotFolders here := by
  induction listing generalizing here with
  | nil => exact h
  | file facts rest ih => exact ih h
  | folder facts children rest ihChildren ih =>
      rw [apart] at h
      rw [imageDotFolders]
      split at h
      · next hdot =>
          rw [imageDotFolders, if_pos hdot] at h
          grind
      · next hdot =>
          rw [if_neg hdot]
          split at h
          · exact List.mem_append_right _ (ih h)
          · rw [imageDotFolders, if_neg hdot] at h
            exact List.mem_append.mpr ((List.mem_append.mp h).imp ihChildren ih)

/-- Each of the ids that are listed belongs to one item. -/
theorem listed_id (h : Listed here listing info) : info.id ∈ listing.ids := by
  induction listing generalizing here with
  | nil => exact absurd h not_listed_nil
  | file facts rest ih =>
      rw [listed_file] at h
      rw [ids, List.mem_cons]
      exact h.imp (fun hfile : _ ∧ _ => congrArg ItemInfo.id hfile.2) ih
  | folder facts children rest ihChildren ih =>
      rw [ids, List.mem_cons, List.mem_append]
      cases hdot : isDotName facts.name with
      | true =>
          rw [listed_dotFolder hdot] at h
          exact h.imp (fun hfolder : _ ∧ _ => congrArg ItemInfo.id hfolder.2)
            fun hrest => .inr (ih hrest)
      | false =>
          rw [listed_folder hdot] at h
          exact .inr (h.imp ihChildren ih)

variable (here) in
theorem nodup_listed (h : listing.ids.Nodup) :
    (listing.images here).Nodup ∧
      ∀ info ∈ listing.images here, info ∉ listing.imageDotFolders here := by
  induction listing generalizing here with
  | nil => simp [images]
  | file facts rest ih =>
      rw [ids, List.nodup_cons] at h
      obtain ⟨hnodup, hapart⟩ := ih here h.2
      have hfresh : ¬ Listed here rest (here.infoOf facts) := fun hrest => h.1 (listed_id hrest)
      rw [images, imageDotFolders]
      rw [Listed] at hfresh
      grind
  | folder facts children rest ihChildren ih =>
      rw [ids, List.nodup_cons, List.mem_append, List.nodup_append] at h
      obtain ⟨hid, hchildren, hrest, hdisjoint⟩ := h
      obtain ⟨hnodup, hapart⟩ := ih here hrest
      rw [images, imageDotFolders]
      cases hdot : isDotName facts.name with
      | true =>
          have hfresh : ¬ Listed here rest (here.infoOf facts) :=
            fun hlisted => hid (.inr (listed_id hlisted))
          rw [Listed] at hfresh
          grind
      | false =>
          obtain ⟨hnodup', hapart'⟩ := ihChildren (here.child facts.name) hchildren
          have hne : ∀ info other, Listed (here.child facts.name) children info →
              Listed here rest other → info ≠ other :=
            fun info other hinfo hother heq =>
              hdisjoint _ (listed_id hinfo) _ (listed_id hother) (congrArg ItemInfo.id heq)
          simp only [Bool.false_eq_true, if_false, List.nodup_append, List.mem_append]
          simp only [Listed] at hne
          grind

end

/-! ## What one pass finds -/

section
variable {atRoot : ℕ → List ItemInfo} {n : ℕ} {here : FolderAt} {listing : Listing}
  {info : ItemInfo}

theorem listed_of_mem_found (h : info ∈ (listing.found atRoot n here).1) :
    Listed here (listing.apart here) info ∨ ∃ m < n, info ∈ atRoot m := by
  induction listing generalizing n here with
  | nil => cases h
  | file facts rest ih =>
      rw [apart, listed_file]
      rw [found] at h
      grind
  | folder facts children rest ihChildren ih =>
      rw [found] at h
      rw [apart]
      cases hdot : isDotName facts.name with
      | true =>
          rw [if_pos rfl, listed_dotFolder hdot]
          grind
      | false =>
          simp only [hdot, Bool.false_eq_true, if_false] at h ⊢
          split at h
          · cases h
          · next hn =>
              split at h
              · next hroot =>
                  rw [if_pos hroot]
                  cases List.mem_append.mp h with
                  | inl hagain => exact .inr ⟨n - 1, by omega, hagain⟩
                  | inr hlater => exact ih hlater
              · next hroot =>
                  rw [if_neg hroot, listed_folder hdot]
                  cases List.mem_append.mp h with
                  | inl hchild =>
                      cases ihChildren hchild with
                      | inl hlisted => exact .inl (.inl hlisted)
                      | inr hagain =>
                          obtain ⟨m, hm, hmem⟩ := hagain
                          exact .inr ⟨m, by omega, hmem⟩
                  | inr hlater => exact (ih hlater).imp_left .inr

variable (atRoot) in
/-- With room for every folder nothing is left out that stands apart. -/
theorem mem_found_of_listed (hheight : listing.height ≤ n)
    (h : Listed here (listing.apart here) info) : info ∈ (listing.found atRoot n here).1 := by
  induction listing generalizing n here with
  | nil => exact absurd h not_listed_nil
  | file facts rest ih =>
      rw [apart, listed_file] at h
      rw [found]
      rw [height] at hheight
      grind
  | folder facts children rest ihChildren ih =>
      rw [height, max_le_iff] at hheight
      rw [apart] at h
      rw [found]
      cases hdot : isDotName facts.name with
      | true =>
          rw [hdot, if_pos rfl, listed_dotFolder hdot] at h
          grind
      | false =>
          have hn : n ≠ 0 := by omega
          simp only [hdot, Bool.false_eq_true, if_false, if_neg hn] at h ⊢
          split at h
          · next hroot =>
              rw [if_pos hroot]
              exact List.mem_append_right _ (ih hheight.2 h)
          · next hroot =>
              rw [if_neg hroot]
              rw [listed_folder hdot] at h
              exact List.mem_append.mpr (h.imp (ihChildren (by omega)) (ih hheight.2))

variable (atRoot) in
/-- A folder taken for the root brings in a whole scan of it. -/
theorem again_of_collides (hheight : listing.height ≤ n) (h : listing.Collides here) :
    ∃ m, n - listing.height ≤ m ∧ ∀ info ∈ atRoot m, info ∈ (listing.found atRoot n here).1 := by
  induction listing generalizing n here with
  | nil => exact absurd h id
  | file facts rest ih =>
      obtain ⟨m, hm, hmem⟩ := ih hheight h
      refine ⟨m, hm, fun info hinfo => ?_⟩
      rw [found]
      have := hmem info hinfo
      grind
  | folder facts children rest ihChildren ih =>
      rw [height, max_le_iff] at hheight
      have hn : n ≠ 0 := by omega
      rw [Collides] at h
      rw [found]
      cases h with
      | inr hrest =>
          obtain ⟨m, hm, hmem⟩ := ih hheight.2 hrest
          refine ⟨m, by rw [height]; omega, fun info hinfo => ?_⟩
          have := hmem info hinfo
          grind
      | inl hfolder =>
          obtain ⟨hdot, hroot⟩ := hfolder
          simp only [hdot, Bool.false_eq_true, if_false, if_neg hn]
          by_cases hhere : (here.child facts.name).text = "/drive/root"
          · rw [if_pos hhere]
            refine ⟨n - 1, by rw [height]; omega, fun info hinfo => ?_⟩
            exact List.mem_append_left _ hinfo
          · rw [if_neg hhere]
            obtain ⟨m, hm, hmem⟩ := ihChildren (n := n - 1) (by omega)
              (hroot.resolve_left hhere)
            refine ⟨m, by rw [height]; omega, fun info hinfo => ?_⟩
            exact List.mem_append_left _ (hmem info hinfo)

theorem found_sublist_file {facts : ItemFacts} {rest : Listing} :
    (rest.found atRoot n here).1.Sublist ((file facts rest).found atRoot n here).1 := by
  rw [found]
  split
  · exact List.sublist_cons_self _ _
  · exact List.Sublist.refl _

theorem found_sublist_folder {facts : ItemFacts} {children rest : Listing} (hn : n ≠ 0) :
    (rest.found atRoot n here).1.Sublist ((folder facts children rest).found atRoot n here).1 := by
  rw [found]
  simp only [if_neg hn]
  split
  · split
    · exact List.sublist_cons_self _ _
    · exact List.Sublist.refl _
  · split
    · exact List.sublist_append_right _ _
    · exact List.sublist_append_right _ _

variable (atRoot) in
/-- What stands apart is listed where it stands and again where the root is scanned again. -/
theorem not_nodup_found (hheight : listing.height ≤ n) (hcollides : listing.Collides here)
    (hlisted : Listed here (listing.apart here) info)
    (hagain : ∀ m, n - listing.height ≤ m → info ∈ atRoot m) :
    ¬ (listing.found atRoot n here).1.Nodup := by
  induction listing generalizing n here with
  | nil => exact absurd hcollides id
  | file facts rest ih =>
      rw [apart, listed_file] at hlisted
      cases hlisted with
      | inr hrest => exact fun h => ih hheight hcollides hrest hagain (h.sublist found_sublist_file)
      | inl hfile =>
          have hrest : rest.height ≤ n := hheight
          obtain ⟨m, hm, hmem⟩ := again_of_collides atRoot hrest hcollides
          have hlater := hmem info (hagain m hm)
          rw [found, if_pos hfile.1, ← hfile.2]
          exact fun h => (List.nodup_cons.mp h).1 hlater
  | folder facts children rest ihChildren ih =>
      rw [height, max_le_iff] at hheight
      have hn : n ≠ 0 := by omega
      have hrest : ∀ m, n - rest.height ≤ m → info ∈ atRoot m := by
        intro m hm
        exact hagain m (by rw [height]; omega)
      have hlater : rest.Collides here → Listed here (rest.apart here) info →
          ¬ ((folder facts children rest).found atRoot n here).1.Nodup :=
        fun hcollides hlisted h =>
          ih hheight.2 hcollides hlisted hrest (h.sublist (found_sublist_folder hn))
      have hagainLater : rest.Collides here → info ∈ (rest.found atRoot n here).1 := by
        intro hcollides
        obtain ⟨m, hm, hmem⟩ := again_of_collides atRoot hheight.2 hcollides
        exact hmem info (hrest m hm)
      rw [apart] at hlisted
      rw [Collides] at hcollides
      cases hdot : isDotName facts.name with
      | true =>
          rw [if_pos hdot, listed_dotFolder hdot] at hlisted
          have hcollides := hcollides.resolve_left fun h => absurd h.1 (by simp [hdot])
          cases hlisted with
          | inr hlisted => exact hlater hcollides hlisted
          | inl hfolder =>
              rw [found, if_pos hdot, if_pos hfolder.1, ← hfolder.2]
              exact fun h => (List.nodup_cons.mp h).1 (hagainLater hcollides)
      | false =>
          simp only [hdot, Bool.false_eq_true, if_false, true_and] at hlisted hcollides
          by_cases hroot : (here.child facts.name).text = "/drive/root"
          · rw [if_pos hroot] at hlisted
            rw [found]
            simp only [hdot, Bool.false_eq_true, if_false, if_neg hn, if_pos hroot]
            have hfirst : info ∈ atRoot (n - 1) := hagain (n - 1) (by rw [height]; omega)
            have hsecond := mem_found_of_listed atRoot hheight.2 hlisted
            exact fun h => (List.nodup_append.mp h).2.2 info hfirst info hsecond rfl
          · rw [if_neg hroot, listed_folder hdot] at hlisted
            cases hcollides with
            | inr hcollides =>
                cases hlisted with
                | inr hlisted => exact hlater hcollides hlisted
                | inl hlisted =>
                    rw [found]
                    simp only [hdot, Bool.false_eq_true, if_false, if_neg hn, if_neg hroot]
                    have hfirst := mem_found_of_listed atRoot (n := n - 1)
                      (by omega) hlisted
                    exact fun h => (List.nodup_append.mp h).2.2 info hfirst info
                      (hagainLater hcollides) rfl
            | inl hcollides =>
                have hchildren := hcollides.resolve_left hroot
                have hagainChildren : ∀ m, n - 1 - children.height ≤ m → info ∈ atRoot m := by
                  intro m hm
                  exact hagain m (by rw [height]; omega)
                rw [found]
                simp only [hdot, Bool.false_eq_true, if_false, if_neg hn, if_neg hroot]
                cases hlisted with
                | inl hlisted =>
                    exact fun h => ihChildren (n := n - 1) (by omega) hchildren hlisted
                      hagainChildren (List.nodup_append.mp h).1
                | inr hlisted =>
                    obtain ⟨m, hm, hmem⟩ := again_of_collides atRoot (n := n - 1)
                      (by omega) hchildren
                    exact fun h => (List.nodup_append.mp h).2.2 info
                      (hmem info (hagainChildren m hm)) info
                      (mem_found_of_listed atRoot hheight.2 hlisted) rfl

variable (atRoot) in
theorem found_perm (hheight : listing.height ≤ n) (h : ¬ listing.Collides here) :
    (listing.found atRoot n here).1.Perm (listing.images here ++ listing.imageDotFolders here) := by
  induction listing generalizing n here with
  | nil => rfl
  | file facts rest ih =>
      rw [found, images, imageDotFolders]
      split
      · exact (ih hheight h).cons _
      · exact ih hheight h
  | folder facts children rest ihChildren ih =>
      rw [height, max_le_iff] at hheight
      rw [Collides, not_or, not_and, not_or] at h
      have hn : n ≠ 0 := by omega
      have hrest := ih hheight.2 h.2
      rw [found, images, imageDotFolders]
      cases hdot : isDotName facts.name with
      | true =>
          simp only [if_true]
          split
          · exact (hrest.cons _).trans List.perm_middle.symm
          · exact hrest
      | false =>
          obtain ⟨hroot, hchildren⟩ := h.1 hdot
          have hbelow := ihChildren (n := n - 1) (by omega) hchildren
          simp only [Bool.false_eq_true, if_false, if_neg hn, if_neg hroot]
          refine (hbelow.append hrest).trans ?_
          rw [List.perm_iff_count]
          intro info
          simp only [List.count_append]
          omega

end

end Listing

/-! ## Complete scans -/

section
variable {ε : Type} {graphGet : String → Except ε (Page String DriveItem)} {pages : ℕ}
  {drive : Listing}

open Listing

/-- Any scan of the root, also one that ran out of room, lists what stands apart only. -/
theorem listed_of_mem_atRoot (hdrive : drive.Served graphGet pages) (n : ℕ) {info : ItemInfo}
    (h : info ∈ atRoot graphGet pages n) : Listed .root (drive.apart .root) info := by
  induction n using Nat.strong_induction_on with
  | _ n ih =>
    rw [atRoot_eq hdrive] at h
    cases listed_of_mem_found h with
    | inl hlisted => exact hlisted
    | inr hagain =>
        obtain ⟨m, hm, hmem⟩ := hagain
        exact ih m hm hmem

theorem mem_atRoot_of_listed (hdrive : drive.Served graphGet pages) {n : ℕ}
    (hn : drive.height ≤ n) {info : ItemInfo} (h : Listed .root (drive.apart .root) info) :
    info ∈ atRoot graphGet pages n := by
  rw [atRoot_eq hdrive]
  exact mem_found_of_listed _ hn h

end

/-- A folder with a picture, a hidden one, and a picture beside them on the second page. -/
def pictureDrive : Listing :=
  .folder ⟨"1", "pics", none, none, none⟩
    (.file ⟨"2", "cat.JPG", some 9, none, none⟩ (.file ⟨"3", "notes.txt", none, none, none⟩ .nil))
    (.folder ⟨"4", ".cache", none, none, none⟩ (.file ⟨"5", "b.png", none, none, none⟩ .nil)
      (.file ⟨"6", "a.png", none, none, none⟩ .nil))

def pictureGet (url : String) : Except Unit (Page String DriveItem) :=
  if url = FolderAt.root.url then .ok ⟨pictureDrive.items.take 1, some "page-2"⟩
  else if url = "page-2" then .ok ⟨pictureDrive.items.drop 1, none⟩
  else if url = (FolderAt.sub "/pics").url then
    .ok ⟨[⟨⟨"2", "cat.JPG", some 9, none, none⟩, false⟩,
      ⟨⟨"3", "notes.txt", none, none, none⟩, false⟩], none⟩
  else if url = (FolderAt.sub "/.cache").url then
    .ok ⟨[⟨⟨"5", "b.png", none, none, none⟩, false⟩], none⟩
  else .error ()

theorem pictureDrive_served : pictureDrive.Served pictureGet 2 := by
  have hroot : Serves pictureGet 2 FolderAt.root.url
      (pictureDrive.items.take 1 ++ pictureDrive.items.drop 1) := .more rfl (.last rfl)
  rw [List.take_append_drop] at hroot
  exact ⟨⟨2, le_rfl, hroot⟩, ⟨1, by decide, .last rfl⟩, trivial, ⟨1, by decide, .last rfl⟩,
    trivial, trivial⟩

/-- The bin is a folder, and is listed among the images of a drive that has none. -/
def binDrive : Listing := .folder ⟨"1", ".bin.png", none, none, none⟩ .nil .nil

def binGet (url : String) : Except Unit (Page String DriveItem) :=
  if url = FolderAt.root.url then .ok ⟨binDrive.items, none⟩ else .ok ⟨[], none⟩

end TruePresenceESE.Onedrive
