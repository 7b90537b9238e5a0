import Mathlib.Tactic.SplitIfs
import QueueJournal.Storage.Sink

/-!
# What is written to a file

On a device that takes bytes nothing is lost in the buffer of a sink: what lands is what was put, in
order (`Sink.putAll_of_accepts`). What is added to a file stands behind its old content and is read
by the same path (`hasFile_addBytes`, `HasFile.content_eq`), because putting a file where there is
no directory leaves every path as it was (`walk_put`).
-/

namespace QueueJournal.Storage

namespace Sink

variable {w : Sink}

theorem landed_fresh : (fresh true).landed = [] := rfl

theorem landed_of_accepts (h : w.accepts = true) : w.landed = w.written ++ w.buffer := by
  rw [landed, if_pos h]

theorem deliver_of_accepts (h : w.accepts = true) (bytes : Bytes) :
    w.deliver bytes = .ok { w with written := w.written ++ bytes } := by
  rw [deliver, if_pos h]
  split
  case isTrue hnil => rw [List.isEmpty_iff.1 hnil, List.append_nil]
  case isFalse => rfl

/-- Writing the buffer to the device changes nothing about what lands. -/
theorem flush_of_accepts (h : w.accepts = true) :
    w.flush = .ok { w with written := w.written ++ w.buffer, buffer := [] } := by
  rw [flush, deliver_of_accepts h]
  rfl

/-- Takes a piece once the buffer has been written if it had to be. -/
def keep (w : Sink) (piece : Bytes) : Except Fault Sink :=
  if capacity ≤ piece.length then w.deliver piece
  else .ok { w with buffer := w.buffer ++ piece }

theorem put_eq (w : Sink) (piece : Bytes) : w.put piece =
    if w.buffer.length + piece.length < capacity then .ok { w with buffer := w.buffer ++ piece }
    else if capacity < w.buffer.length + piece.length then w.flush.bind (·.keep piece)
    else w.keep piece := by
  by_cases hsmall : w.buffer.length + piece.length < capacity
  · rw [put, if_pos hsmall, if_pos hsmall]
  · rw [put, if_neg hsmall, if_neg hsmall]
    by_cases hgreat : capacity < w.buffer.length + piece.length
    · rw [if_pos hgreat, if_pos hgreat]
      rfl
    · rw [if_neg hgreat, if_neg hgreat]
      rfl

/-- A piece that is written by itself must find the buffer empty. -/
theorem keep_of_accepts (h : w.accepts = true) {piece : Bytes}
    (hempty : capacity ≤ piece.length → w.buffer = []) :
    ∃ w', w.keep piece = .ok w' ∧ w'.accepts = true ∧ w'.landed = w.landed ++ piece := by
  rw [keep]
  split
  case isTrue hlong =>
    exact ⟨_, deliver_of_accepts h piece, h, by simp [landed, h, hempty hlong]⟩
  case isFalse => exact ⟨_, rfl, h, by simp [landed, h]⟩

/-- **A piece lands behind what was put before it**, whatever becomes of the buffer. -/
theorem put_of_accepts (h : w.accepts = true) (piece : Bytes) :
    ∃ w', w.put piece = .ok w' ∧ w'.accepts = true ∧ w'.landed = w.landed ++ piece := by
  rw [put_eq]
  split
  case isTrue => exact ⟨_, rfl, h, by simp [landed, h]⟩
  case isFalse hfull =>
    split
    case isTrue =>
      let flushed : Sink := { w with written := w.written ++ w.buffer, buffer := [] }
      have hlanded : flushed.landed = w.landed := by simp [flushed, landed, h]
      have hflush : w.flush = .ok flushed := flush_of_accepts h
      rw [hflush, ← hlanded]
      exact keep_of_accepts (w := flushed) h fun _ ↦ rfl
    case isFalse hfits =>
      exact keep_of_accepts h fun hlong ↦ List.eq_nil_of_length_eq_zero (by omega)

theorem putAll_of_accepts (h : w.accepts = true) (pieces : List Bytes) :
    ∃ w', w.putAll pieces = (w', none) ∧ w'.accepts = true ∧
      w'.landed = w.landed ++ pieces.flatten := by
  induction pieces generalizing w with
  | nil => exact ⟨w, rfl, h, by simp⟩
  | cons piece pieces ih =>
    obtain ⟨w₁, hput, haccepts, hlanded⟩ := put_of_accepts h piece
    obtain ⟨w₂, hputAll, haccepts', hlanded'⟩ := ih haccepts
    refine ⟨w₂, ?_, haccepts', ?_⟩
    · rw [putAll, hput]
      exact hputAll
    · rw [hlanded', hlanded, List.flatten_cons, List.append_assoc]

end Sink

/-! ### What stands where -/

variable {t : Storage} {location l : Location} {node : Node}

theorem lookup_update_self (location : Location) (node : Node) (entries : List (Location × Node)) :
    (put.update location node entries).lookup location = some node := by
  induction entries with
  | nil => exact List.lookup_cons_self
  | cons entry entries ih =>
    obtain ⟨l, n⟩ := entry
    rw [put.update]
    split
    case isTrue => exact List.lookup_cons_self
    case isFalse hne => rw [List.lookup_cons, beq_false_of_ne (Ne.symm hne), ih]

theorem lookup_update_of_ne (node : Node) (hne : l ≠ location) (entries : List (Location × Node)) :
    (put.update location node entries).lookup l = entries.lookup l := by
  induction entries with
  | nil => rw [put.update, List.lookup_cons, beq_false_of_ne hne]
  | cons entry entries ih =>
    obtain ⟨l', n⟩ := entry
    rw [put.update]
    split
    case isTrue heq => rw [List.lookup_cons, List.lookup_cons, heq, beq_false_of_ne hne]
    case isFalse => rw [List.lookup_cons, List.lookup_cons, ih]

/-- What is put at a location stands there. -/
theorem node?_put_self (hroot : location ≠ []) (node : Node) :
    (t.put location node).node? location = some node := by
  rw [node?, if_neg (by simpa using hroot)]
  exact lookup_update_self ..

/-- Everything else stays where it is. -/
theorem node?_put_of_ne (node : Node) (hne : l ≠ location) :
    (t.put location node).node? l = t.node? l := by
  rw [node?, node?, ← lookup_update_of_ne node hne t.entries]
  rfl

/-! ### Paths whose names stay -/

/-- One name further along a path leads where it led. -/
theorem step_put {name : String} {source target : Location} (hroot : location ≠ [])
    (hno : t.node? location ≠ some .directory) (bytes : Bytes)
    (h : t.step source name = .ok target) :
    (t.put location (.file bytes)).step source name = .ok target := by
  rw [step] at h ⊢
  split_ifs at h with hsource hdot hdots hlong hmissing
  case pos => rw [node?_put_of_ne _ (by grind), if_neg hsource, if_pos hdot, h]
  case pos => rw [node?_put_of_ne _ (by grind), if_neg hsource, if_neg hdot, if_pos hdots, h]
  case neg =>
    -- The name leads to something, so it does not matter whether it leads to the file itself.
    have hfound : ((t.put location (.file bytes)).node? (source ++ [name])).isNone ≠ true := by
      by_cases heq : source ++ [name] = location
      · rw [heq, node?_put_self hroot]
        simp
      · rwa [node?_put_of_ne _ heq]
    rw [node?_put_of_ne _ (by grind), if_neg hsource, if_neg hdot, if_neg hdots, if_neg hlong,
      if_neg hfound, h]

theorem walk_cons (t : Storage) (source : Location) (name : String) (names : List String) :
    t.walk source (name :: names) = (t.step source name).bind (t.walk · names) := rfl

theorem walk_concat (t : Storage) (source : Location) (names : List String) (name : String) :
    t.walk source (names ++ [name]) = (t.walk source names).bind (t.step · name) := by
  induction names generalizing source with
  | nil =>
    change (t.step source name).bind .ok = t.step source name
    cases t.step source name <;> rfl
  | cons n names ih =>
    rw [List.cons_append, walk_cons, walk_cons]
    cases t.step source n with
    | error fault => rfl
    | ok target => exact ih target

/-- A path leads where it led. -/
theorem walk_put {names : List String} {source target : Location} (hroot : location ≠ [])
    (hno : t.node? location ≠ some .directory) (bytes : Bytes)
    (h : t.walk source names = .ok target) :
    (t.put location (.file bytes)).walk source names = .ok target := by
  induction names generalizing source with
  | nil => exact h
  | cons name names ih =>
    rw [walk_cons] at h ⊢
    cases hstep : t.step source name with
    | error fault =>
      rw [hstep] at h
      cases h
    | ok next =>
      rw [hstep] at h
      rw [step_put hroot hno bytes hstep]
      exact ih h

/-! ### Paths that lead to a file -/

/-- The path leads to a name in a directory, where a file can stand. -/
structure Leads (t : Storage) (text : String) (p : Path) (parent : Location) (name : String) :
    Prop where
  /-- The path can be taken apart. -/
  path_eq : path text = .ok p
  /-- The name is its last one. -/
  last : p.names.getLast? = some name
  /-- The other names lead to the directory. -/
  walk_eq : t.walk (t.start p) p.names.dropLast = .ok parent
  /-- It is a directory. -/
  directory : t.node? parent = some .directory
  /-- The name is not that of the directory itself. -/
  notHere : name ≠ "."
  /-- The name is not that of the directory around it. -/
  notAbove : name ≠ ".."
  /-- The path does not ask for a directory. -/
  noSlash : p.endsInSlash = false
  /-- The name is not too long. -/
  short : Text.byteCount name.toList ≤ longestName
  /-- No directory stands there. -/
  noDirectory : t.node? (parent ++ [name]) ≠ some .directory

variable {text name : String} {p : Path} {parent : Location}

theorem exists_leads (h : t.fileLocation text = .ok location) :
    ∃ p parent name, t.Leads text p parent name ∧ location = parent ++ [name] := by
  rw [fileLocation] at h
  cases hpath : path text with
  | error fault => simp [hpath, bind, Except.bind] at h
  | ok p =>
    simp only [hpath, bind, Except.bind] at h
    cases hname : p.names.getLast? with
    | none => simp [hname] at h
    | some name =>
      simp only [hname] at h
      cases hwalk : t.walk (t.start p) p.names.dropLast with
      | error fault => simp [hwalk] at h
      | ok parent =>
        simp only [hwalk] at h
        split_ifs at h with hparent hdots hlong hdirectory
        simp only [not_or, Bool.not_eq_true] at hdots
        refine ⟨p, parent, name, ?_, (Except.ok.inj h).symm⟩
        exact ⟨hpath, hname, hwalk, Decidable.not_not.1 hparent, hdots.1, hdots.2.1, hdots.2.2,
          Nat.le_of_not_lt hlong, hdirectory⟩

theorem Leads.fileLocation (h : t.Leads text p parent name) :
    t.fileLocation text = .ok (parent ++ [name]) := by
  obtain ⟨hpath, hname, hwalk, hparent, hhere, habove, hslash, hshort, hno⟩ := h
  simp [Storage.fileLocation, bind, Except.bind, hpath, hname, hwalk, hparent, hhere, habove,
    hslash, Nat.not_lt.2 hshort, hno]

theorem Leads.put (h : t.Leads text p parent name) (bytes : Bytes) :
    (t.put (parent ++ [name]) (.file bytes)).Leads text p parent name := by
  have hroot : parent ++ [name] ≠ [] := List.append_ne_nil_of_right_ne_nil _ (List.cons_ne_nil _ _)
  have hne : parent ≠ parent ++ [name] := fun heq ↦ h.noDirectory (heq ▸ h.directory)
  have hdirectory : (t.put (parent ++ [name]) (.file bytes)).node? parent = some .directory := by
    rw [node?_put_of_ne _ hne, h.directory]
  have hno : (t.put (parent ++ [name]) (.file bytes)).node? (parent ++ [name]) ≠
      some .directory := by
    rw [node?_put_self hroot]
    simp
  exact { h with
    walk_eq := walk_put hroot h.noDirectory bytes h.walk_eq
    directory := hdirectory
    noDirectory := hno }

/-- **A file that is written leaves the way to it as it was.** -/
theorem fileLocation_put (h : t.fileLocation text = .ok location) (bytes : Bytes) :
    (t.put location (.file bytes)).fileLocation text = .ok location := by
  obtain ⟨p, parent, name, hleads, rfl⟩ := exists_leads h
  exact (hleads.put bytes).fileLocation

theorem ne_nil_of_fileLocation (h : t.fileLocation text = .ok location) : location ≠ [] := by
  obtain ⟨p, parent, name, -, rfl⟩ := exists_leads h
  exact List.append_ne_nil_of_right_ne_nil _ (List.cons_ne_nil _ _)

/-- **A file that can be written is read by the same path.** -/
theorem content_of_fileLocation {bytes : Bytes} (h : t.fileLocation text = .ok location)
    (hfile : t.node? location = some (.file bytes)) : t.content text = .ok bytes := by
  obtain ⟨p, parent, name, hleads, rfl⟩ := exists_leads h
  obtain ⟨hpath, hname, hwalk, hparent, hhere, habove, hslash, hshort, -⟩ := hleads
  have hstep : t.step parent name = .ok (parent ++ [name]) := by
    rw [step, if_neg (not_not_intro hparent), if_neg hhere, if_neg habove,
      if_neg (Nat.not_lt.2 hshort), if_neg (by simp [hfile])]
  have hnames : p.names.dropLast ++ [name] = p.names := by
    obtain ⟨front, hfront⟩ := List.getLast?_eq_some_iff.1 hname
    rw [hfront, List.dropLast_concat]
  have hfind : t.find text = .ok (.file bytes) := by
    simp only [find, hpath, bind, Except.bind]
    rw [← hnames, walk_concat, hwalk]
    simp [Except.bind, hstep, hfile, hslash]
  rw [Storage.content, hfind]
  rfl

/-! ### Files that are written to -/

/-- The path leads to a file with this content. -/
def HasFile (t : Storage) (text : String) (content : Bytes) : Prop :=
  ∃ location, t.fileLocation text = .ok location ∧ t.node? location = some (.file content)

/-- The path leads to a file with this content, or to where one is missing. -/
inductive Offers (t : Storage) (text : String) : Bytes → Prop where
  /-- There is a file. -/
  | file {content : Bytes} (h : t.HasFile text content) : t.Offers text content
  /-- Nothing is there. -/
  | missing {location : Location} (hlocation : t.fileLocation text = .ok location)
      (hnone : t.node? location = none) : t.Offers text []

variable {content : Bytes}

theorem HasFile.content_eq (h : t.HasFile text content) : t.content text = .ok content := by
  obtain ⟨location, hlocation, hfile⟩ := h
  exact content_of_fileLocation hlocation hfile

theorem Offers.exists_openFile (h : t.Offers text content) :
    ∃ location opened, t.openFile text = .ok (location, opened) ∧
      opened.fileLocation text = .ok location ∧
      opened.node? location = some (.file content) := by
  cases h with
  | file h =>
    obtain ⟨location, hlocation, hfile⟩ := h
    refine ⟨location, t, ?_, hlocation, hfile⟩
    simp [openFile, bind, Except.bind, hlocation, hfile]
  | @missing location hlocation hnone =>
    refine ⟨location, t.put location (.file []), ?_, fileLocation_put hlocation [],
      node?_put_self (ne_nil_of_fileLocation hlocation) _⟩
    simp [openFile, bind, Except.bind, hlocation, hnone]

theorem accepts_of_file (hfile : t.node? location = some (.file content)) :
    t.accepts location = true := by
  rw [accepts, hfile]
  rfl

/-- **Bytes that are added to a file stand behind its content.** -/
theorem hasFile_addBytes (hlocation : t.fileLocation text = .ok location)
    (hfile : t.node? location = some (.file content)) (bytes : Bytes) :
    (t.addBytes location bytes).HasFile text (content ++ bytes) := by
  have hadd : t.addBytes location bytes = t.put location (.file (content ++ bytes)) := by
    rw [addBytes, hfile]
  rw [hadd]
  exact ⟨location, fileLocation_put hlocation _,
    node?_put_self (ne_nil_of_fileLocation hlocation) _⟩

end QueueJournal.Storage
