import Huashan.Boot.Inputs

/-!
# Huashan.Boot.Image

The image that `mkelf.py` makes, read back as an ELF file.

* `main_eq`: the output is that of a sequence of writes in the order of their positions.
* `image_complete`: up to 125 inputs are all in the image, each where its program header says, if
  none of them is the output.
-/

namespace Huashan
namespace Boot

/-! ## Reading an image -/

def readElfHdr (image : Bytes) : ElfHdr where
  eIdent := slice image 0 8
  eType := u16At image 16
  eMachine := u16At image 18
  eVersion := u32At image 20
  eEntry := u32At image 24
  ePhoff := u32At image 28
  eShoff := u32At image 32
  eFlags := u32At image 36
  eEhsize := u16At image 40
  ePhentsize := u16At image 42
  ePhnum := u16At image 44
  eShentsize := u16At image 46
  eShnum := u16At image 48
  eShstrndx := u16At image 50

def readElfPhdr (image : Bytes) (off : Nat) : ElfPhdr where
  pType := u32At image off
  pOffset := u32At image (off + 4)
  pVaddr := u32At image (off + 8)
  pPaddr := u32At image (off + 12)
  pFilesz := u32At image (off + 16)
  pMemsz := u32At image (off + 20)
  pFlags := u32At image (off + 24)
  pAlign := u32At image (off + 28)

/-- The `i`-th program header, where the ELF header says. -/
def phdrAt (image : Bytes) (i : Nat) : ElfPhdr :=
  readElfPhdr image ((readElfHdr image).ePhoff + i * (readElfHdr image).ePhentsize)

/-! ## Packed structures -/

theorem length_elfHdr_fields (elfhdr : ElfHdr) : (fieldBytes elfhdr.fields).length = 36 := by
  simp [length_fieldBytes, ElfHdr.fields]

theorem length_elfPhdr_fields (elfphdr : ElfPhdr) :
    (fieldBytes elfphdr.fields).length = 32 := by
  simp [length_fieldBytes, ElfPhdr.fields]

section Structures

variable {image : Bytes} {off : Nat}

/-- A header whose numbers fit, with its eight bytes of identification, is read back from an image
that starts with it. -/
theorem readElfHdr_eq {elfhdr : ElfHdr} (hident : elfhdr.eIdent.length = 8)
    (hfits : ∀ field ∈ elfhdr.fields, field.2 < 256 ^ field.1)
    (h : slice image 0 52 = packString 8 elfhdr.eIdent ++ List.replicate 8 0 ++
      fieldBytes elfhdr.fields) : readElfHdr image = elfhdr := by
  have hpack : packString 8 elfhdr.eIdent = elfhdr.eIdent := by
    rw [packString, ← hident]
    exact List.take_left
  rw [hpack] at h
  have hident' : slice image 0 8 = elfhdr.eIdent := by
    have hslice : slice (slice image 0 52) 0 8 = slice image 0 8 := slice_slice image (by decide)
    rw [← hslice, h, List.append_assoc, slice_append_left _ _ (by omega), slice_all hident]
  have hlength := length_elfHdr_fields elfhdr
  have hfields : slice image 16 (fieldBytes elfhdr.fields).length = fieldBytes elfhdr.fields := by
    have hslice : slice (slice image 0 52) 16 36 = slice image 16 36 :=
      slice_slice image (by decide)
    have hprefix : (elfhdr.eIdent ++ List.replicate 8 0).length + 0 = 16 := by simp [hident]
    rw [hlength, ← hslice, h, ← hprefix, slice_append_right]
    exact slice_all hlength
  obtain ⟨h0, h1, h2, h3, h4, h5, h6, h7, h8, h9, h10, h11, h12, _⟩ :=
    fieldsAt_of_slice hfields hfits
  have hread : readElfHdr image = ⟨elfhdr.eIdent, elfhdr.eType, elfhdr.eMachine, elfhdr.eVersion,
      elfhdr.eEntry, elfhdr.ePhoff, elfhdr.eShoff, elfhdr.eFlags, elfhdr.eEhsize,
      elfhdr.ePhentsize, elfhdr.ePhnum, elfhdr.eShentsize, elfhdr.eShnum, elfhdr.eShstrndx⟩ := by
    rw [← hident', ← h0, ← h1, ← h2, ← h3, ← h4, ← h5, ← h6, ← h7, ← h8, ← h9, ← h10, ← h11, ← h12]
    rfl
  exact hread

/-- A program header whose numbers fit is read back from where its bytes are. -/
theorem readElfPhdr_eq {elfphdr : ElfPhdr}
    (hfits : ∀ field ∈ elfphdr.fields, field.2 < 256 ^ field.1)
    (h : slice image off 32 = fieldBytes elfphdr.fields) : readElfPhdr image off = elfphdr := by
  rw [← length_elfPhdr_fields elfphdr] at h
  obtain ⟨h0, h1, h2, h3, h4, h5, h6, h7, _⟩ := fieldsAt_of_slice h hfits
  have hread : readElfPhdr image off = ⟨elfphdr.pType, elfphdr.pOffset, elfphdr.pVaddr,
      elfphdr.pPaddr, elfphdr.pFilesz, elfphdr.pMemsz, elfphdr.pFlags, elfphdr.pAlign⟩ := by
    rw [← h0, ← h1, ← h2, ← h3, ← h4, ← h5, ← h6, ← h7]
    rfl
  exact hread

end Structures

/-! ## The layout -/

def totalSize (files : Bytes → Option Bytes) (names : List Bytes) : Nat :=
  (names.map fun name => ((files name).getD []).length).sum

/-- The segments have the sizes of their files, and follow each other from `offset` to `limit`. -/
structure LaidOut (files : Bytes → Option Bytes) (offset limit : Nat) (segments : List Segment) :
    Prop where
  size_eq : ∀ seg ∈ segments, ∃ data, files seg.file = some data ∧ seg.size = data.length
  le_offset : ∀ seg ∈ segments, offset ≤ seg.offset
  le_limit : ∀ seg ∈ segments, seg.offset + seg.size ≤ limit
  ordered : segments.Pairwise fun seg later => seg.offset + seg.size ≤ later.offset

theorem layOut_eq {files : Bytes → Option Bytes} {segs : List Seg}
    (hfiles : ∀ seg ∈ segs, (files seg.file).isSome) (offset : Nat) : ∃ segments,
      layOut files offset segs = some segments ∧ segments.map Segment.toSeg = segs ∧
        LaidOut files offset (offset + totalSize files (segs.map Seg.file)) segments := by
  induction segs generalizing offset with
  | nil =>
    refine ⟨[], rfl, rfl, ⟨?_, ?_, ?_, .nil⟩⟩
    all_goals
      intro seg hseg
      cases hseg
  | cons seg segs ih =>
    obtain ⟨data, hdata⟩ := Option.isSome_iff_exists.mp (hfiles seg List.mem_cons_self)
    obtain ⟨segments, hlayOut, hmap, hlaid⟩ :=
      ih (fun s hs => hfiles s (List.mem_cons_of_mem _ hs)) (offset + data.length)
    have htotal : totalSize files ((seg :: segs).map Seg.file) =
        data.length + totalSize files (segs.map Seg.file) := by
      rw [totalSize, List.map_cons, List.map_cons, List.sum_cons, hdata]
      rfl
    refine ⟨{ seg with offset := offset, size := data.length } :: segments, ?_, ?_, ?_⟩
    · rw [layOut, hdata]
      show (layOut files (offset + data.length) segs >>= fun segments => _) = _
      rw [hlayOut]
      rfl
    · rw [List.map_cons, hmap]
    · rw [htotal, ← Nat.add_assoc]
      refine ⟨?_, ?_, ?_, List.pairwise_cons.mpr ⟨hlaid.le_offset, hlaid.ordered⟩⟩
      · exact List.forall_mem_cons.mpr ⟨⟨data, hdata, rfl⟩, hlaid.size_eq⟩
      · refine List.forall_mem_cons.mpr ⟨le_refl _, fun s hs => ?_⟩
        exact (Nat.le_add_right _ _).trans (hlaid.le_offset s hs)
      · exact List.forall_mem_cons.mpr ⟨Nat.le_add_right _ _, hlaid.le_limit⟩

/-! ## The writes -/

/-- The writes of the program headers, from a position on. -/
def phdrWrites : Nat → List Segment → List (Nat × Bytes)
  | _, [] => []
  | pos, seg :: segments =>
    (pos, fieldBytes (elfPhdr seg).fields) :: phdrWrites (pos + 32) segments

def boardWrites (boardname : Option Bytes) : List (Nat × Bytes) :=
  boardname.toList.map fun boardname => (pagesize - 16, packString 16 boardname)

def segmentWrites (files : Bytes → Option Bytes) (segments : List Segment) : List (Nat × Bytes) :=
  segments.map fun seg => (seg.offset, (files seg.file).getD [])

def hdrBytes (elfhdr : ElfHdr) : Bytes :=
  packString 8 elfhdr.eIdent ++ List.replicate 8 0 ++ fieldBytes elfhdr.fields

/-- All that the script writes. -/
def imageWrites (files : Bytes → Option Bytes) (boardname : Option Bytes) (elfhdr : ElfHdr)
    (segments : List Segment) : List (Nat × Bytes) :=
  (0, hdrBytes elfhdr) ::
    (phdrWrites 52 segments ++ (boardWrites boardname ++ segmentWrites files segments))

theorem mem_phdrWrites {segments : List Segment} {i : Nat} (hi : i < segments.length) (pos : Nat) :
    (pos + 32 * i, fieldBytes (elfPhdr segments[i]).fields) ∈ phdrWrites pos segments := by
  induction segments generalizing pos i with
  | nil => cases hi
  | cons seg segments ih =>
    cases i with
    | zero => exact List.mem_cons_self
    | succ i =>
      have hrest := ih (Nat.lt_of_succ_lt_succ hi) (pos + 32)
      rw [phdrWrites, Nat.mul_succ, Nat.add_comm (32 * i), ← Nat.add_assoc]
      exact List.mem_cons_of_mem _ hrest

theorem phdrWrites_bounds {segments : List Segment} {pos : Nat} :
    ∀ write ∈ phdrWrites pos segments, pos ≤ write.1 ∧
      write.1 + write.2.length ≤ pos + 32 * segments.length := by
  induction segments generalizing pos with
  | nil =>
    intro write hwrite
    cases hwrite
  | cons seg segments ih =>
    refine List.forall_mem_cons.mpr ⟨⟨le_refl _, ?_⟩, fun write hwrite => ?_⟩
    · rw [length_elfPhdr_fields, List.length_cons]
      omega
    · obtain ⟨hstart, hend⟩ := ih write hwrite
      rw [List.length_cons]
      omega

theorem ordered_phdrWrites (segments : List Segment) (pos : Nat) :
    OrderedWrites (phdrWrites pos segments) := by
  induction segments generalizing pos with
  | nil => exact .nil
  | cons seg segments ih =>
    refine List.pairwise_cons.mpr ⟨fun write hwrite => ?_, ih _⟩
    rw [length_elfPhdr_fields]
    exact (phdrWrites_bounds write hwrite).1

theorem length_packString (len : Nat) (s : Bytes) : (packString len s).length = len := by
  rw [packString, List.length_take, List.length_append, List.length_replicate]
  omega

theorem length_hdrBytes (elfhdr : ElfHdr) : (hdrBytes elfhdr).length = 52 := by
  rw [hdrBytes, List.length_append, List.length_append, length_packString, List.length_replicate,
    length_elfHdr_fields]

theorem LaidOut.ordered_segmentWrites {files : Bytes → Option Bytes} {offset limit : Nat}
    {segments : List Segment} (h : LaidOut files offset limit segments) :
    OrderedWrites (segmentWrites files segments) := by
  refine List.pairwise_map.mpr (h.ordered.imp_of_mem fun {seg later} hseg _ hle => ?_)
  obtain ⟨data, hdata, hsize⟩ := h.size_eq seg hseg
  rw [hsize] at hle
  rw [hdata]
  exact hle

/-- The headers end before the board name starts, and the board name where the segments start. -/
theorem LaidOut.ordered_imageWrites {files : Bytes → Option Bytes} {limit : Nat}
    {segments : List Segment} (h : LaidOut files pagesize limit segments)
    (hcount : segments.length ≤ 125) (boardname : Option Bytes) (elfhdr : ElfHdr) :
    OrderedWrites (imageWrites files boardname elfhdr segments) := by
  have hphdr : ∀ write ∈ phdrWrites 52 segments, 52 ≤ write.1 ∧
      write.1 + write.2.length ≤ pagesize - 16 := by
    intro write hwrite
    obtain ⟨hstart, hend⟩ := phdrWrites_bounds write hwrite
    unfold pagesize
    omega
  have hboard : ∀ write ∈ boardWrites boardname, write.1 = pagesize - 16 ∧
      write.2.length = 16 := by
    intro write hwrite
    obtain ⟨name, _, rfl⟩ := List.mem_map.mp hwrite
    exact ⟨rfl, length_packString 16 name⟩
  have hsegment : ∀ write ∈ segmentWrites files segments, pagesize ≤ write.1 := by
    intro write hwrite
    obtain ⟨seg, hseg, rfl⟩ := List.mem_map.mp hwrite
    exact h.le_offset seg hseg
  have hboardOrdered : OrderedWrites (boardWrites boardname) := by
    cases boardname with
    | none => exact .nil
    | some name => exact List.pairwise_singleton _ _
  have hrest : OrderedWrites (boardWrites boardname ++ segmentWrites files segments) := by
    refine orderedWrites_append hboardOrdered h.ordered_segmentWrites (fun write hwrite => ?_)
      hsegment
    rw [(hboard write hwrite).1, (hboard write hwrite).2]
    rfl
  have hrestStart : ∀ write ∈ boardWrites boardname ++ segmentWrites files segments,
      pagesize - 16 ≤ write.1 := by
    intro write hwrite
    obtain hwrite | hwrite := List.mem_append.mp hwrite
    · exact (hboard write hwrite).1.ge
    · exact (Nat.sub_le _ _).trans (hsegment write hwrite)
  refine List.pairwise_cons.mpr ⟨fun write hwrite => ?_, orderedWrites_append
    (ordered_phdrWrites segments 52) hrest (fun write hwrite => (hphdr write hwrite).2) hrestStart⟩
  rw [length_hdrBytes]
  obtain hwrite | hwrite := List.mem_append.mp hwrite
  · exact (hphdr write hwrite).1
  · have hpage : 52 ≤ pagesize - 16 := by decide
    exact hpage.trans (hrestStart write hwrite)

/-! ## The output -/

section Output

variable {fs : FileSystem} {output : Option Nat} {segments : List Segment}

/-- The numbers of the headers fit. -/
structure Fits (elfhdr : ElfHdr) (segments : List Segment) : Prop where
  elfhdr : ∀ field ∈ elfhdr.fields, field.2 < 256 ^ field.1
  elfphdr : ∀ seg ∈ segments, ∀ field ∈ (elfPhdr seg).fields, field.2 < 256 ^ field.1

theorem foldlM_writeElfPhdr
    (hfits : ∀ seg ∈ segments, ∀ field ∈ (elfPhdr seg).fields, field.2 < 256 ^ field.1)
    (elf : OutFile) : segments.foldlM writeElfPhdr elf = some
      ⟨writeAll (phdrWrites elf.pos segments) elf.content, elf.pos + 32 * segments.length⟩ := by
  induction segments generalizing elf with
  | nil => rfl
  | cons seg segments ih =>
    have hpack : (elfPhdr seg).pack = some (fieldBytes (elfPhdr seg).fields) :=
      if_pos (hfits seg List.mem_cons_self)
    have hrest := ih (fun s hs => hfits s (List.mem_cons_of_mem _ hs))
      (elf.write (fieldBytes (elfPhdr seg).fields))
    have hpos : elf.pos + 32 * (segments.length + 1) =
        elf.pos + 32 + 32 * segments.length := by omega
    rw [List.foldlM_cons, writeElfPhdr, hpack]
    rw [OutFile.write, length_elfPhdr_fields] at hrest
    rw [List.length_cons, hpos, phdrWrites, writeAll_cons]
    show segments.foldlM writeElfPhdr (elf.write _) = _
    rw [OutFile.write, length_elfPhdr_fields]
    exact hrest

/-- A file that is not the output is not emptied. -/
theorem readOpen_eq {name : Bytes} (hother : fs.lookup name ≠ output) (elf : OutFile) :
    readOpen fs output elf name = fs.read name := by
  unfold readOpen FileSystem.read
  cases hfile : fs.lookup name with
  | none => rfl
  | some file => rw [Option.map_some, Option.map_some, if_neg (hfile ▸ hother)]

theorem foldlM_writeSegment (hfiles : ∀ seg ∈ segments, (fs.read seg.file).isSome)
    (hother : ∀ seg ∈ segments, fs.lookup seg.file ≠ output) (elf : OutFile) :
    (segments.foldlM (writeSegment fs output) elf).map OutFile.content =
      some (writeAll (segmentWrites fs.read segments) elf.content) := by
  induction segments generalizing elf with
  | nil => rfl
  | cons seg segments ih =>
    obtain ⟨data, hdata⟩ := Option.isSome_iff_exists.mp (hfiles seg List.mem_cons_self)
    have hrest := ih (fun s hs => hfiles s (List.mem_cons_of_mem _ hs))
      (fun s hs => hother s (List.mem_cons_of_mem _ hs)) ((elf.seek seg.offset).write data)
    rw [List.foldlM_cons, writeSegment, readOpen_eq (hother seg List.mem_cons_self), hdata,
      segmentWrites, List.map_cons, writeAll_cons, hdata]
    exact hrest

theorem fits_elfHdr {entry phnum : Nat} (hentry : entry < 2 ^ 32) (hphnum : phnum < 2 ^ 16) :
    ∀ field ∈ (elfHdr entry phnum).fields, field.2 < 256 ^ field.1 := by
  simp only [ElfHdr.fields, elfHdr, List.forall_mem_cons, List.not_mem_nil, false_implies,
    implies_true, and_true]
  omega

theorem segFlags_lt (flags : Option Marker) : segFlags flags < 2 ^ 32 := by
  cases flags with
  | none => decide
  | some marker => cases marker <;> decide

theorem segType_lt (flags : Option Marker) : segType flags < 2 ^ 32 := by
  unfold segType
  split <;> decide

theorem fits_elfPhdr {seg : Segment} (haddr : seg.addrValue < 2 ^ 32)
    (hend : seg.offset + seg.size < 2 ^ 32) :
    ∀ field ∈ (elfPhdr seg).fields, field.2 < 256 ^ field.1 := by
  have hflags := segFlags_lt seg.flags
  have htype := segType_lt seg.flags
  simp only [ElfPhdr.fields, elfPhdr, List.forall_mem_cons, List.not_mem_nil, false_implies,
    implies_true, and_true]
  omega

/-- The output is that of all the writes. -/
theorem main_eq {boardname : Option Bytes} {outputfile : Bytes} {args : List Bytes}
    {segs : List Seg} {first : Segment} (hout : outputfile ≠ []) (hargs : args ≠ [])
    (hparse : parseInputs args = some segs)
    (hlayOut : layOut fs.read pagesize segs = some segments)
    (hfirst : segments.head? = some first)
    (hfits : Fits (elfHdr first.addrValue segments.length) segments)
    (hfiles : ∀ seg ∈ segments, (fs.read seg.file).isSome)
    (hother : ∀ seg ∈ segments, fs.lookup seg.file ≠ fs.lookup outputfile) :
    main fs boardname (some outputfile) args = some (writeAll (imageWrites fs.read boardname
      (elfHdr first.addrValue segments.length) segments) []) := by
  have hpack : (elfHdr first.addrValue segments.length).pack =
      some (hdrBytes (elfHdr first.addrValue segments.length)) := by
    rw [ElfHdr.pack, packFields, if_pos hfits.elfhdr]
    rfl
  have hlength : ¬args.length < 1 := by
    rw [Nat.lt_one_iff, List.length_eq_zero_iff]
    exact hargs
  unfold main
  dsimp only [Option.getD_some]
  rw [if_neg hout, if_neg hlength, hparse]
  show (layOut fs.read pagesize segs >>= fun segments => _) = _
  rw [hlayOut]
  show (segments.head? >>= fun first => _) = _
  rw [hfirst]
  show (writeElfHeader ⟨[], 0⟩ first.addrValue segments.length >>= fun elf => _) = _
  rw [writeElfHeader, hpack]
  show (segments.foldlM writeElfPhdr (OutFile.write ⟨[], 0⟩ _) >>= fun elf => _) = _
  rw [foldlM_writeElfPhdr hfits.elfphdr, imageWrites, writeAll_cons, writeAll_append,
    writeAll_append, OutFile.write, length_hdrBytes]
  cases boardname with
  | none => exact foldlM_writeSegment hfiles hother _
  | some name => exact foldlM_writeSegment hfiles hother _

end Output

/-! ## What is in an image -/

/-- `p_type` and `p_flags` of an input. -/
def typeAndFlags : Option Marker → Nat × Nat
  | none | some .entry => (1, 0)
  | some .ramdisk => (1, 0x80000000)
  | some .ipl => (1, 0x40000000)
  | some .cmdline => (4, 0x20000000)
  | some .rpm => (1, 0x01000000)

/-- A program header is that of an input, and shows where the bytes of its file are. -/
structure Loads (files : Bytes → Option Bytes) (image : Bytes) (input : Input) (phdr : ElfPhdr) :
    Prop where
  pVaddr : phdr.pVaddr = input.addr
  pPaddr : phdr.pPaddr = input.addr
  typeAndFlags : (phdr.pType, phdr.pFlags) = typeAndFlags input.marker
  content : ∃ data, files input.file = some data ∧ phdr.pFilesz = data.length ∧
    slice image phdr.pOffset phdr.pFilesz = data
  pOffset : 4096 ≤ phdr.pOffset

/-- The image contains the inputs, and nothing overlaps. -/
structure IsImageOf (files : Bytes → Option Bytes) (boardname : Option Bytes)
    (inputs : List Input) (image : Bytes) : Prop where
  ePhnum : (readElfHdr image).ePhnum = inputs.length
  ePhoff : (readElfHdr image).ePhoff = 52
  eEntry : ∀ first ∈ inputs.head?, (readElfHdr image).eEntry = first.addr
  loads : ∀ i (hi : i < inputs.length), Loads files image inputs[i] (phdrAt image i)
  disjoint : ∀ i j, i < j → j < inputs.length →
    (phdrAt image i).pOffset + (phdrAt image i).pFilesz ≤ (phdrAt image j).pOffset
  elfHdr_end : (readElfHdr image).eEhsize ≤ (readElfHdr image).ePhoff
  phdr_end : (readElfHdr image).ePhoff +
    (readElfHdr image).ePhnum * (readElfHdr image).ePhentsize ≤ 4096 - 16
  boardname : ∀ name ∈ boardname,
    slice image (4096 - 16) 16 = (name ++ List.replicate 16 0).take 16

theorem typeAndFlags_eq (flags : Option Marker) :
    (segType flags, segFlags flags) = typeAndFlags flags := by
  cases flags with
  | none => rfl
  | some marker => cases marker <;> rfl

theorem isImageOf_writes {files : Bytes → Option Bytes} {boardname : Option Bytes}
    {segments : List Segment} {first : Segment} {limit : Nat}
    (hlaid : LaidOut files pagesize limit segments) (hcount : segments.length ≤ 125)
    (hfirst : segments.head? = some first)
    (hfits : Fits (elfHdr first.addrValue segments.length) segments) :
    IsImageOf files boardname (segments.map fun seg => seg.toSeg.input) (writeAll (imageWrites files boardname
      (elfHdr first.addrValue segments.length) segments) []) := by
  have hordered := hlaid.ordered_imageWrites hcount boardname
    (elfHdr first.addrValue segments.length)
  generalize himage : writeAll (imageWrites files boardname
    (elfHdr first.addrValue segments.length) segments) [] = image
  have hread : ∀ write ∈ imageWrites files boardname (elfHdr first.addrValue segments.length)
      segments, slice image write.1 write.2.length = write.2 := by
    intro write hwrite
    rw [← himage]
    exact slice_writeAll hordered hwrite []
  have hhdr : readElfHdr image = elfHdr first.addrValue segments.length := by
    have hwrite := hread _ List.mem_cons_self
    rw [length_hdrBytes] at hwrite
    exact readElfHdr_eq rfl hfits.elfhdr hwrite
  have hphdr : ∀ i (hi : i < segments.length), phdrAt image i = elfPhdr segments[i] := by
    intro i hi
    have hwrite := hread _ (List.mem_cons_of_mem _ (List.mem_append_left _ (mem_phdrWrites hi 52)))
    rw [length_elfPhdr_fields, Nat.mul_comm] at hwrite
    rw [phdrAt, hhdr]
    exact readElfPhdr_eq (hfits.elfphdr _ (List.getElem_mem hi)) hwrite
  refine ⟨?_, ?_, ?_, ?_, ?_, ?_, ?_, ?_⟩
  · rw [hhdr, List.length_map]
    rfl
  · rw [hhdr]
    rfl
  · intro seg hseg
    rw [List.head?_map, hfirst] at hseg
    cases hseg
    rw [hhdr]
    rfl
  · intro i hi
    rw [List.length_map] at hi
    rw [hphdr i hi, List.getElem_map]
    have hmem : segments[i] ∈ segments := List.getElem_mem hi
    obtain ⟨data, hdata, hsize⟩ := hlaid.size_eq _ hmem
    refine ⟨rfl, rfl, typeAndFlags_eq _, ⟨data, hdata, hsize, ?_⟩, hlaid.le_offset _ hmem⟩
    have hwrite := hread _ (List.mem_cons_of_mem _ (List.mem_append_right _
      (List.mem_append_right _ (List.mem_map_of_mem hmem))))
    rw [hdata, Option.getD_some, ← hsize] at hwrite
    exact hwrite
  · intro i j hij hj
    rw [List.length_map] at hj
    rw [hphdr i (hij.trans hj), hphdr j hj]
    exact List.pairwise_iff_getElem.mp hlaid.ordered i j (hij.trans hj) hj hij
  · rw [hhdr]
    rfl
  · rw [hhdr]
    show 52 + segments.length * 32 ≤ pagesize - 16
    unfold pagesize
    omega
  · intro name hname
    have hwrite := hread (pagesize - 16, packString 16 name) (List.mem_cons_of_mem _
      (List.mem_append_right _ (List.mem_append_left _ (List.mem_map_of_mem
        (Option.mem_toList.mpr hname)))))
    rw [length_packString] at hwrite
    exact hwrite

/-- The script makes an image that contains all of up to 125 inputs, none of which is the output. -/
theorem image_complete {fs : FileSystem} {outputfile : Bytes} {args : List Bytes}
    {inputs : List Input} (boardname : Option Bytes) (hout : outputfile ≠ []) (hargs : args ≠ [])
    (hcount : args.length ≤ 125) (hmeans : List.Forall₂ Says args inputs)
    (hfiles : ∀ input ∈ inputs, (fs.read input.file).isSome)
    (hother : ∀ input ∈ inputs, fs.lookup input.file ≠ fs.lookup outputfile)
    (haddr : ∀ input ∈ inputs, input.addr < 2 ^ 32)
    (htotal : 4096 + totalSize fs.read (inputs.map Input.file) < 2 ^ 32) :
    inputs.length = args.length ∧
      ∃ image, main fs boardname (some outputfile) args = some image ∧
        IsImageOf fs.read boardname inputs image := by
  obtain ⟨segs, hparse, rfl⟩ := Option.map_eq_some_iff.mp (parseInputs_iff.mpr hmeans)
  have hlength := hmeans.length_eq
  rw [List.forall_mem_map] at hfiles hother haddr
  rw [List.map_map] at htotal
  obtain ⟨segments, hlayOut, hmap, hlaid⟩ := layOut_eq hfiles pagesize
  have hcount' : segments.length = args.length := by
    rw [hlength, List.length_map, ← hmap, List.length_map]
  obtain ⟨first, rest, hcons⟩ := List.exists_cons_of_length_pos
    (hcount' ▸ List.length_pos_iff.mpr hargs)
  have hfirst : segments.head? = some first := by rw [hcons]; rfl
  have hmem : ∀ seg ∈ segments, seg.toSeg ∈ segs := fun seg hseg =>
    hmap ▸ List.mem_map_of_mem hseg
  have hfits : Fits (elfHdr first.addrValue segments.length) segments := by
    refine ⟨fits_elfHdr (haddr _ (hmem first (List.mem_of_mem_head? hfirst))) (by omega), ?_⟩
    intro seg hseg
    have hend : seg.offset + seg.size < 2 ^ 32 := (hlaid.le_limit seg hseg).trans_lt htotal
    exact fits_elfPhdr (haddr _ (hmem seg hseg)) hend
  refine ⟨hlength.symm, _, main_eq hout hargs hparse hlayOut hfirst hfits
    (fun seg hseg => hfiles _ (hmem seg hseg)) (fun seg hseg => hother _ (hmem seg hseg)), ?_⟩
  rw [← hmap, List.map_map]
  exact isImageOf_writes hlaid (by omega) hfirst hfits

/-- A kernel and its command line, as the makefile gives them. -/
def kernelArgs : List Bytes := [ascii "kernel@0x80208000", ascii "cmdline.txt@cmdline"]

/-- The kernel is the file 0, with three bytes, the command line the file 1, and the output new. -/
def kernelFiles : FileSystem where
  lookup name :=
    if name = ascii "kernel" then some 0 else if name = ascii "cmdline.txt" then some 1 else none
  content file := if file = 0 then [1, 2, 3] else ascii "quiet"

theorem kernel_complete : ∃ image, main kernelFiles (some (ascii "huashan"))
    (some (ascii "boot.img")) kernelArgs = some image ∧
      IsImageOf kernelFiles.read (some (ascii "huashan"))
        [⟨ascii "kernel", 0x80208000, none⟩, ⟨ascii "cmdline.txt", 0, some .cmdline⟩] image := by
  refine (image_complete _ ?_ ?_ ?_ (parseInputs_iff.mp ?_) ?_ ?_ ?_ ?_).2
  all_goals decide +kernel

end Boot
end Huashan
