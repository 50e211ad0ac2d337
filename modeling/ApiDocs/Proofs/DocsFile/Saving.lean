import ApiDocs.DocsFile
import ApiDocs.Proofs.Files.Room

/-!
Saving the documentation. What was saved is in its file (`Files.read_of_save`), and its directory stands; saving it again
changes nothing (`Files.save_again`).
-/
namespace ApiDocs.Files

/-- What is rendered is saved where there is room for the file. -/
theorem save_of_hasRoom {fs : Files} {s : Snapshot} {config : Config} {directory : Option Path} {content : Bytes}
    (rendered : s.render config.output = .ok content)
    (room : fs.HasRoom (config.output.outputPath config.filename directory)) :
    (fs.save s config directory).2.result = .ok (config.output.outputPath config.filename directory) := by
  obtain ⟨later,written⟩ := write_of_hasRoom room content
  rw [save,rendered]
  dsimp only
  rw [ensureDirectory_of_hasRoom room]
  dsimp only
  rw [written]

/-- What was saved was rendered, and then written where its directory had been made. -/
theorem exists_write_of_save {fs : Files} (grounded : fs.IsGrounded) {s : Snapshot} {config : Config}
    {directory : Option Path} {path : Path} (saved : (fs.save s config directory).2.result = .ok path) :
    ∃ content mid later, path = config.output.outputPath config.filename directory ∧
      s.render config.output = .ok content ∧ checkPath (nullMessage "mkdir") path.parent = .ok () ∧
      fs.ensureDirectory path.parent = (mid,.ok ()) ∧ mid.IsGrounded ∧ mid.write path content = .ok later ∧
      fs.save s config directory = (later,⟨[.wroteDocument s.length path.toText],.ok path⟩) := by
  unfold save at saved ⊢
  cases rendered : s.render config.output with
  | error e => simp [rendered] at saved
  | ok content =>
    rw [rendered] at saved
    dsimp only at saved ⊢
    cases made : fs.ensureDirectory (config.output.outputPath config.filename directory).parent with
    | mk mid outcome =>
      rw [made] at saved
      cases outcome with
      | error e => cases saved
      | ok _ =>
        dsimp only at saved ⊢
        cases written : mid.write (config.output.outputPath config.filename directory) content with
        | error e => simp [written] at saved
        | ok later =>
          rw [written] at saved
          cases saved
          have kept := grounded.ensureDirectory (config.output.outputPath config.filename directory).parent
          rw [made] at kept
          refine ⟨content,mid,later,rfl,rfl,?_,made,kept,written,rfl⟩
          unfold Files.ensureDirectory at made
          split at made
          · cases made
          · assumption

/-- The directory of what was saved stands. -/
theorem isDirectory_of_save {fs : Files} (grounded : fs.IsGrounded) {s : Snapshot} {config : Config}
    {directory : Option Path} {path : Path} (saved : (fs.save s config directory).2.result = .ok path) :
    (fs.save s config directory).1.isDirectory path.parent = true := by
  obtain ⟨content,mid,later,_,_,_,made,groundedMid,written,same⟩ := exists_write_of_save grounded saved
  rw [same]
  obtain ⟨place,accepts,_,_,rfl⟩ := exists_put_of_write groundedMid written
  exact (extends_put accepts (.inr ⟨content,rfl⟩)).isDirectory groundedMid (isDirectory_of_ensureDirectory grounded made)

/-- What was saved is what is read. -/
theorem read_of_save {fs : Files} (grounded : fs.IsGrounded) {s : Snapshot} {config : Config} {directory : Option Path}
    {path : Path} (saved : (fs.save s config directory).2.result = .ok path) :
    ∃ content, s.render config.output = .ok content ∧ (fs.save s config directory).1.read path = .ok content := by
  obtain ⟨content,mid,later,_,rendered,_,_,groundedMid,written,same⟩ := exists_write_of_save grounded saved
  rw [same]
  exact ⟨content,rendered,read_of_write groundedMid written⟩

/-- What was saved may be saved again. -/
theorem save_again {fs : Files} (grounded : fs.IsGrounded) {s : Snapshot} {config : Config} {directory : Option Path}
    {path : Path} (saved : (fs.save s config directory).2.result = .ok path) :
    (fs.save s config directory).1.save s config directory = fs.save s config directory := by
  have stands := isDirectory_of_save grounded saved
  obtain ⟨content,mid,later,rfl,rendered,allowed,made,groundedMid,written,same⟩ := exists_write_of_save grounded saved
  rw [same] at stands ⊢
  rw [save,rendered]
  dsimp only
  rw [ensureDirectory_of_isDirectory allowed stands]
  dsimp only
  rw [write_again groundedMid written]

end ApiDocs.Files
