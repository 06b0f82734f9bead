import TwoGather.FirestoreRules

/-!
# The security rules of the files

`storage.rules`, block by block. A write is an upload or a deletion, and only an upload has
content; the conditions on the content therefore refuse every deletion. The last block
covers every file, so whoever is signed in may read and upload all of them, identity cards of
others included, while a deletion is left to the owner of a profile image or an identity card
and to nobody for the other files (`storageAllowed_iff`).
-/

namespace TwoGather

open Rules

/-- `request.resource`. -/
structure Upload where
  contentType : String
  deriving DecidableEq

/-- A request on a file, which has content exactly if it uploads. -/
structure FileRequest where
  auth : Option Auth
  method : Method
  resource : Option Upload
  uploads : resource.isSome ↔ method ∈ [.create, .update]

/-! ## Conditions -/

/-- `contentType.matches('image/.*')`; the dot is any character but the end of a line. -/
def Upload.isImage (upload : Upload) : Bool :=
  "image/".toList.isPrefixOf upload.contentType.toList &&
    !upload.contentType.toList.contains '\n'

/-- `isValidImageFile()`. -/
def isValidImageFile (request : FileRequest) : Bool :=
  match request.resource with
  | none => false
  | some upload => upload.isImage

/-- `isValidFile()`. -/
def isValidFile (request : FileRequest) : Bool :=
  request.resource.isSome

/-- `request.auth != null`. -/
def fileSignedIn (request : FileRequest) : Bindings → Bool :=
  signedIn { auth := request.auth }

/-- `request.auth != null && request.auth.uid == userId`. -/
def fileOwner (request : FileRequest) : Bindings → Bool :=
  ownerOnly { auth := request.auth }

/-! ## `storage.rules` -/

/-- `match /users/{userId}/profil/{fileName}`. -/
def profilRules : List (Rule FileRequest Method) :=
  within [.literal "users", .single "userId", .literal "profil", .single "fileName"]
    [ { pattern := [], methods := Method.read, condition := fileSignedIn },
      { pattern := [], methods := [.delete], condition := fileOwner },
      { pattern := [], methods := Method.write
        condition := fun request bindings =>
          fileOwner request bindings && isValidImageFile request } ]

/-- `match /users/{userId}/identity/{fileName}`. -/
def identityRules : List (Rule FileRequest Method) :=
  within [.literal "users", .single "userId", .literal "identity", .single "fileName"]
    [ { pattern := [], methods := Method.read, condition := fileOwner },
      { pattern := [], methods := [.delete], condition := fileOwner },
      { pattern := [], methods := Method.write
        condition := fun request bindings =>
          fileOwner request bindings && isValidImageFile request } ]

/-- `match /fiestas/{fiestaId}/{fileName}`. -/
def fiestaImageRules : List (Rule FileRequest Method) :=
  within [.literal "fiestas", .single "fiestaId", .single "fileName"]
    [ { pattern := [], methods := Method.read, condition := fileSignedIn },
      { pattern := [], methods := Method.write
        condition := fun request bindings =>
          fileSignedIn request bindings && isValidImageFile request } ]

/-- `match /{allPaths=**}`. -/
def otherFileRules : List (Rule FileRequest Method) :=
  within [.recursive "allPaths"]
    [ { pattern := [], methods := Method.read, condition := fileSignedIn },
      { pattern := [], methods := Method.write
        condition := fun request bindings =>
          fileSignedIn request bindings && isValidFile request } ]

/-- The rules of `service firebase.storage` that stand in the block of one bucket. -/
def inBucket (rules : List (Rule FileRequest Method)) : List (Rule FileRequest Method) :=
  within [.literal "b", .single "bucket", .literal "o"] rules

def storageRules : List (Rule FileRequest Method) :=
  inBucket (profilRules ++ identityRules ++ fiestaImageRules ++ otherFileRules)

/-- The path of a file of the bucket, as rules see it. -/
def filePath (bucket : String) (path : List String) : List String :=
  "b" :: bucket :: "o" :: path

/-- Some rule allows the request. -/
def storageAllowed (request : FileRequest) (bucket : String) (path : List String) : Bool :=
  granted storageRules request request.method (filePath bucket path)

/-! ## What the rules allow -/

section Allowed

variable {request : FileRequest} {bucket : String} {path : List String} {bindings : Bindings}

theorem FileRequest.no_resource (deletes : request.method = .delete) :
    request.resource = none := by
  rw [← Option.not_isSome_iff_eq_none, request.uploads, deletes]
  decide

theorem FileRequest.resource_isSome (write : request.method ∈ Method.write)
    (stays : request.method ≠ .delete) : request.resource.isSome := by
  rw [request.uploads]
  simpa [Method.write, stays] using write

theorem Method.mem_write_of_not_read {method : Method} (other : method ∉ Method.read) :
    method ∈ Method.write := by
  cases method with
  | get => exact absurd (by decide) other
  | list => exact absurd (by decide) other
  | create => decide
  | update => decide
  | delete => decide

/-- The files of a folder of a user. -/
theorem mem_matchings_folder {folder : String} :
    bindings ∈ matchings [.literal "users", .single "userId", .literal folder,
      .single "fileName"] path ↔
      ∃ u file, path = ["users", u, folder, file] ∧
        bindings = [("userId", [u]), ("fileName", [file])] := by
  constructor
  · intro found
    rcases path with - | ⟨a, - | ⟨u, - | ⟨b, - | ⟨file, - | ⟨c, rest⟩⟩⟩⟩⟩
    case cons.cons.cons.cons.nil =>
      simp only [matchings_literal, matchings_single] at found
      split at found
      case isTrue same =>
        subst same
        split at found
        case isTrue same =>
          subst same
          simp at found
          exact ⟨u, file, rfl, found⟩
        case isFalse => cases found
      case isFalse => cases found
    all_goals simp at found
  · rintro ⟨u, file, rfl, rfl⟩
    simp

/-- The last block, for what is not a deletion. -/
theorem otherFileRules_grant (signed : request.auth.isSome) (stays : request.method ≠ .delete) :
    granted (inBucket otherFileRules) request request.method (filePath bucket path) = true := by
  have bound : [("bucket", [bucket]), ("allPaths", path)] ∈
      matchings [.literal "b", .single "bucket", .literal "o", .recursive "allPaths"]
        (filePath bucket path) := by
    simp only [filePath, matchings_literal, ↓reduceIte, matchings_single, List.mem_map]
    exact ⟨_, (mem_matchings_recursive "allPaths" _).mpr rfl, rfl⟩
  rw [granted_iff]
  by_cases read : request.method ∈ Method.read
  · exact ⟨_, List.mem_cons_self, Rule.grants_iff.mpr ⟨read, _, bound, signed⟩⟩
  · have write := Method.mem_write_of_not_read read
    refine ⟨_, List.mem_cons_of_mem _ List.mem_cons_self, Rule.grants_iff.mpr
      ⟨write, _, bound, ?_⟩⟩
    exact Bool.and_eq_true_iff.mpr ⟨signed, request.resource_isSome write stays⟩

/-- The block of the owner, for a file of a folder. -/
theorem any_fileOwner_iff (bucket : String) {folder : String} :
    (matchings [.literal "users", .single "userId", .literal folder, .single "fileName"] path).any
        (fun bindings => fileOwner request (("bucket", [bucket]) :: bindings)) = true ↔
      ∃ auth file, request.auth = some auth ∧ path = ["users", auth.uid, folder, file] := by
  rw [List.any_eq_true]
  constructor
  · rintro ⟨bindings, found, owner⟩
    rcases mem_matchings_folder.mp found with ⟨u, file, rfl, rfl⟩
    unfold fileOwner ownerOnly at owner
    split at owner
    case h_1 => cases owner
    case h_2 auth signed =>
      have same : u = auth.uid := by simpa [List.lookup_cons] using owner
      subst same
      exact ⟨auth, file, signed, rfl⟩
  · rintro ⟨auth, file, signed, rfl⟩
    refine ⟨_, mem_matchings_folder.mpr ⟨auth.uid, file, rfl, rfl⟩, ?_⟩
    simp [fileOwner, ownerOnly, signed, List.lookup_cons]

/-- Without content, only the two deletions of the owner are left. -/
theorem deletion_iff (deletes : request.method = .delete) :
    storageAllowed request bucket path = true ↔
      ∃ auth folder file, request.auth = some auth ∧ folder ∈ ["profil", "identity"] ∧
        path = ["users", auth.uid, folder, file] := by
  have noImage : isValidImageFile request = false := by
    rw [isValidImageFile, request.no_resource deletes]
  have noFile : isValidFile request = false := by
    rw [isValidFile, request.no_resource deletes]
    rfl
  have owners : storageAllowed request bucket path = true ↔
      (∃ auth file, request.auth = some auth ∧ path = ["users", auth.uid, "profil", file]) ∨
        ∃ auth file, request.auth = some auth ∧
          path = ["users", auth.uid, "identity", file] := by
    rw [← any_fileOwner_iff bucket, ← any_fileOwner_iff bucket]
    simp [storageAllowed, granted, storageRules, inBucket, within, profilRules, identityRules,
      fiestaImageRules, otherFileRules, Rule.grants, deletes, noImage, noFile, Method.read,
      filePath, List.any_map, Function.comp_def]
  rw [owners]
  simp only [List.mem_cons, List.not_mem_nil, or_false]
  constructor
  · rintro (⟨auth, file, signed, same⟩ | ⟨auth, file, signed, same⟩)
    · exact ⟨auth, "profil", file, signed, .inl rfl, same⟩
    · exact ⟨auth, "identity", file, signed, .inr rfl, same⟩
  · rintro ⟨auth, folder, file, signed, rfl | rfl, same⟩
    · exact .inl ⟨auth, file, signed, same⟩
    · exact .inr ⟨auth, file, signed, same⟩

/-- Every rule is about those who are signed in. -/
theorem storageRules_signedIn (allowed : storageAllowed request bucket path = true) :
    request.auth.isSome := by
  refine granted_requires (C := fun request => request.auth.isSome) ?_ allowed
  intro rule listed bindings holds
  have conditions : ∀ rule ∈ storageRules, rule.condition request bindings = true →
      fileSignedIn request bindings = true ∨ fileOwner request bindings = true := by
    simp +contextual [storageRules, inBucket, within, profilRules, identityRules,
      fiestaImageRules, otherFileRules]
  rcases conditions rule listed holds with signed | owner
  · exact signed
  · exact ownerOnly_signedIn owner

/-- **Whoever is signed in reads and uploads every file, and deletes its own profile images and
identity cards only.** -/
theorem storageAllowed_iff (request : FileRequest) (bucket : String) (path : List String) :
    storageAllowed request bucket path = true ↔
      ∃ auth, request.auth = some auth ∧ (request.method = .delete →
        ∃ folder file, folder ∈ ["profil", "identity"] ∧
          path = ["users", auth.uid, folder, file]) := by
  by_cases deletes : request.method = .delete
  · rw [deletion_iff deletes]
    constructor
    · rintro ⟨auth, folder, file, signed, listed, same⟩
      exact ⟨auth, signed, fun _ => ⟨folder, file, listed, same⟩⟩
    · rintro ⟨auth, signed, owns⟩
      rcases owns deletes with ⟨folder, file, listed, same⟩
      exact ⟨auth, folder, file, signed, listed, same⟩
  · constructor
    · intro allowed
      rcases Option.isSome_iff_exists.mp (storageRules_signedIn allowed) with ⟨auth, signed⟩
      exact ⟨auth, signed, fun same => absurd same deletes⟩
    · rintro ⟨auth, signed, -⟩
      have last : storageRules =
          inBucket (profilRules ++ identityRules ++ fiestaImageRules) ++
            inBucket otherFileRules := rfl
      have isSigned : request.auth.isSome := by
        rw [signed]
        rfl
      unfold storageAllowed
      rw [last, granted_append, otherFileRules_grant isSigned deletes, Bool.or_true]

/-- The block of the identity cards keeps a card from everyone else; the rules do not. -/
theorem identity_allowed {auth : Auth} {u : String} (signed : request.auth = some auth)
    (other : u ≠ auth.uid) (stays : request.method ≠ .delete) (bucket file : String) :
    granted (inBucket (profilRules ++ identityRules ++ fiestaImageRules)) request request.method
        (filePath bucket ["users", u, "identity", file]) = false ∧
      storageAllowed request bucket ["users", u, "identity", file] = true := by
  have allowed := (storageAllowed_iff request bucket ["users", u, "identity", file]).mpr
    ⟨auth, signed, fun same => absurd same stays⟩
  refine ⟨?_, allowed⟩
  have owner : fileOwner request
      [("bucket", [bucket]), ("userId", [u]), ("fileName", [file])] = false := by
    simp [fileOwner, ownerOnly, signed, List.lookup_cons, other]
  simp [granted, inBucket, within, profilRules, identityRules, fiestaImageRules, Rule.grants,
    filePath, owner]

end Allowed

end TwoGather
