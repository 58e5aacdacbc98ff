import Huashan.Bytes
import Huashan.Numerals

/-!
# Huashan.Boot.Mkelf

The script `mkelf.py`, which combines files to an ELF image. The output is emptied before the inputs
are read, and may be one of them; writing to it does not fail. What stops the script, by `fatal` or
by an exception, is `none`.
-/

namespace Huashan
namespace Boot

/-- The bytes of an argument, of a file name and of a file. -/
abbrev Bytes := List UInt8

def ascii (s : String) : Bytes := s.toList.map fun c => UInt8.ofNat c.toNat

/-! ## Arguments -/

inductive Marker where
  | cmdline
  | ramdisk
  | ipl
  | entry
  | rpm
  deriving DecidableEq, Repr

/-- What `parse_inputs` collects of an argument. -/
structure Seg where
  file : Bytes
  addr : Bytes
  flags : Option Marker
  deriving DecidableEq

/-- `$` also matches before a newline at the end. -/
def dropNewline (rest : Bytes) : Bytes :=
  if rest.getLast? = some 0x0a then rest.dropLast else rest

/-- `(?:,(ramdisk|ipl|entry|rpm))?$`. -/
def matchMarker (rest : Bytes) : Option (Option Marker) :=
  let rest := dropNewline rest
  if rest = [] then some none
  else if rest = ascii ",ramdisk" then some (some .ramdisk)
  else if rest = ascii ",ipl" then some (some .ipl)
  else if rest = ascii ",entry" then some (some .entry)
  else if rest = ascii ",rpm" then some (some .rpm)
  else none

/-- `^(0x[0-9a-fA-F]+)`, which takes all the digits that there are, and the rest of the pattern. -/
def matchInput : Bytes → Option (Bytes × Option Marker)
  | 0x30 :: 0x78 :: rest =>
    let digits := rest.takeWhile (isDigitOf 16)
    if digits = [] then none
    else (matchMarker (rest.dropWhile (isDigitOf 16))).map fun flags =>
      (0x30 :: 0x78 :: digits, flags)
  | _ => none

def parseInput (arg : Bytes) : Option Seg :=
  match arg.splitOn 0x40 with
  | [file, token] =>
    if token = ascii "cmdline" then some ⟨file, ascii "0", some .cmdline⟩
    else (matchInput token).map fun (addr, flags) => ⟨file, addr, flags⟩
  | _ => none

def parseInputs (args : List Bytes) : Option (List Seg) := args.mapM parseInput

/-- `long(addr, 16)` of an address that was parsed. -/
def Seg.addrValue (seg : Seg) : Nat := ofDigits 16 (dropHexPrefix 16 seg.addr)

/-! ## The structures of an ELF file -/

structure ElfHdr where
  eIdent : Bytes
  eType : Nat
  eMachine : Nat
  eVersion : Nat
  eEntry : Nat
  ePhoff : Nat
  eShoff : Nat
  eFlags : Nat
  eEhsize : Nat
  ePhentsize : Nat
  ePhnum : Nat
  eShentsize : Nat
  eShnum : Nat
  eShstrndx : Nat
  deriving DecidableEq

structure ElfPhdr where
  pType : Nat
  pOffset : Nat
  pVaddr : Nat
  pPaddr : Nat
  pFilesz : Nat
  pMemsz : Nat
  pFlags : Nat
  pAlign : Nat
  deriving DecidableEq

def ptLoad : Nat := 1
def ptNote : Nat := 4

def pFlagsRamdisk : Nat := 0x80000000
def pFlagsIpl : Nat := 0x40000000
def pFlagsCmdline : Nat := 0x20000000
def pFlagsRpm : Nat := 0x01000000

/-- `struct.pack` of unsigned numbers, with the width and the value of each. -/
def packFields (fields : List (Nat × Nat)) : Option Bytes :=
  if ∀ field ∈ fields, field.2 < 256 ^ field.1 then some (fieldBytes fields) else none

/-- A string of a fixed length. -/
def packString (len : Nat) (s : Bytes) : Bytes := (s ++ List.replicate len 0).take len

/-- `HHLLLLLHHHHHH`. -/
def ElfHdr.fields (elfhdr : ElfHdr) : List (Nat × Nat) :=
  [(2, elfhdr.eType), (2, elfhdr.eMachine), (4, elfhdr.eVersion), (4, elfhdr.eEntry),
    (4, elfhdr.ePhoff), (4, elfhdr.eShoff), (4, elfhdr.eFlags), (2, elfhdr.eEhsize),
    (2, elfhdr.ePhentsize), (2, elfhdr.ePhnum), (2, elfhdr.eShentsize), (2, elfhdr.eShnum),
    (2, elfhdr.eShstrndx)]

/-- `<8s8xHHLLLLLHHHHHH`. -/
def ElfHdr.pack (elfhdr : ElfHdr) : Option Bytes :=
  (packFields elfhdr.fields).map fun packed =>
    packString 8 elfhdr.eIdent ++ List.replicate 8 0 ++ packed

/-- `<LLLLLLLL`. -/
def ElfPhdr.fields (elfphdr : ElfPhdr) : List (Nat × Nat) :=
  [(4, elfphdr.pType), (4, elfphdr.pOffset), (4, elfphdr.pVaddr), (4, elfphdr.pPaddr),
    (4, elfphdr.pFilesz), (4, elfphdr.pMemsz), (4, elfphdr.pFlags), (4, elfphdr.pAlign)]

def ElfPhdr.pack (elfphdr : ElfPhdr) : Option Bytes := packFields elfphdr.fields

/-! ## The script -/

/-- The files before the script runs. -/
structure FileSystem where
  /-- The file that a name leads to. -/
  lookup : Bytes → Option Nat
  content : Nat → Bytes

def FileSystem.read (fs : FileSystem) (name : Bytes) : Option Bytes :=
  (fs.lookup name).map fs.content

/-- The output that is open: its content, and where the next write goes. -/
structure OutFile where
  content : Bytes
  pos : Nat
  deriving DecidableEq

def OutFile.write (elf : OutFile) (data : Bytes) : OutFile :=
  ⟨writeAt elf.content elf.pos data, elf.pos + data.length⟩

def OutFile.seek (elf : OutFile) (pos : Nat) : OutFile := { elf with pos := pos }

/-- `\x7fELF\x01\x01\x01\x61`. -/
def eIdent : Bytes := [0x7f, 0x45, 0x4c, 0x46, 0x01, 0x01, 0x01, 0x61]

def elfHdr (entry phnum : Nat) : ElfHdr where
  eIdent := eIdent
  eType := 2
  eMachine := 40
  eVersion := 1
  eEntry := entry
  ePhoff := 52
  eShoff := 0
  eFlags := 0
  eEhsize := 52
  ePhentsize := 32
  ePhnum := phnum
  eShentsize := 0
  eShnum := 0
  eShstrndx := 0

def writeElfHeader (elf : OutFile) (entry phnum : Nat) : Option OutFile :=
  (elfHdr entry phnum).pack.map elf.write

/-- A segment with what `main` adds to it. -/
structure Segment extends Seg where
  offset : Nat
  size : Nat

def segType (flags : Option Marker) : Nat := if flags = some .cmdline then ptNote else ptLoad

def segFlags (flags : Option Marker) : Nat :=
  match flags with
  | some .ramdisk => pFlagsRamdisk
  | some .ipl => pFlagsIpl
  | some .cmdline => pFlagsCmdline
  | some .rpm => pFlagsRpm
  | some .entry | none => 0

def elfPhdr (seg : Segment) : ElfPhdr where
  pType := segType seg.flags
  pOffset := seg.offset
  pVaddr := seg.addrValue
  pPaddr := seg.addrValue
  pFilesz := seg.size
  pMemsz := seg.size
  pFlags := segFlags seg.flags
  pAlign := 0

def writeElfPhdr (elf : OutFile) (seg : Segment) : Option OutFile :=
  (elfPhdr seg).pack.map elf.write

def pagesize : Nat := 4096

/-- The loop that gives each segment its offset. -/
def layOut (files : Bytes → Option Bytes) : Nat → List Seg → Option (List Segment)
  | _, [] => some []
  | offset, seg :: segs => do
    let size := (← files seg.file).length
    let segments ← layOut files (offset + size) segs
    return { seg with offset := offset, size := size } :: segments

section Main

variable (fs : FileSystem)

/-- What a file has while the output is open, which `seek` has flushed. -/
def readOpen (output : Option Nat) (elf : OutFile) (name : Bytes) : Option Bytes :=
  (fs.lookup name).map fun file => if some file = output then elf.content else fs.content file

/-- The body of the last loop. -/
def writeSegment (output : Option Nat) (elf : OutFile) (seg : Segment) : Option OutFile :=
  let elf := elf.seek seg.offset
  (readOpen fs output elf seg.file).map elf.write

/-- The content of the output in the end. -/
def main (boardname outputfile : Option Bytes) (args : List Bytes) : Option Bytes := do
  let outputfile := outputfile.getD []
  if outputfile = [] then none
  if args.length < 1 then none
  let segs ← parseInputs args
  let segments ← layOut fs.read pagesize segs
  let first ← segments.head?
  -- a new file, if the name leads to none
  let output := fs.lookup outputfile
  let elf ← writeElfHeader ⟨[], 0⟩ first.addrValue segments.length
  let elf ← segments.foldlM writeElfPhdr elf
  let elf :=
    match boardname with
    | some boardname => (elf.seek (pagesize - 16)).write (packString 16 boardname)
    | none => elf
  (segments.foldlM (writeSegment fs output) elf).map OutFile.content

end Main

end Boot
end Huashan
