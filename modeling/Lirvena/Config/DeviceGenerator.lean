import Lirvena.Config.DeviceFile

/-!
# The generated device

A device that no file describes is made of twenty-four random bytes: an identifier of
version 4, a locally administered unicast address, a template that is chosen by its weight
and the number of its host.  Whatever the bytes are, the profile is one that its own file is
read back to.
-/

namespace Lirvena
namespace Config

open Domain
open Lib

structure SyntheticTemplate where
  archetype : String
  category : String
  hostPrefix : String
  deviceName : String
  hardwareModel : String
  osRelease : String
  distro : String
  desktopEnvironment : String
  sessionType : String
  loginName : String
  networkInterface : String
  rootFilesystemBytes : String
  memoryTotalKib : String
  portable : Bool
  weight : Nat
  deriving DecidableEq

/-- `TEMPLATES` -/
def templates : List SyntheticTemplate :=
  [
    ⟨"uos-m720q", "domestic-enterprise", "uos-office", "ThinkCentre M720q",
      "Lenovo ThinkCentre M720q", "Linux 5.10.0-amd64-desktop x86_64", "UOS Desktop 20", "DDE",
      "x11", "user", "enp0s31f6", "499963174912", "16325684", false, 16⟩,
    ⟨"deepin-optiplex3070", "domestic-enterprise", "deepin-desk", "OptiPlex 3070 Micro",
      "Dell OptiPlex 3070 Micro", "Linux 6.6.25-amd64-desktop-hwe x86_64", "deepin 23", "DDE",
      "x11", "user", "enp1s0", "499963174912", "16325684", false, 13⟩,
    ⟨"ubuntu-xps9310-developer", "linux-preinstalled", "xps-dev", "XPS 13 9310",
      "Dell XPS 13 9310", "Linux 5.15.0-139-generic x86_64", "Ubuntu 20.04.6 LTS", "GNOME",
      "x11", "developer", "wlp0s20f3", "255852544000", "7864320", true, 10⟩,
    ⟨"popos-lemurpro11", "linux-preinstalled", "lemur", "Lemur Pro lemp11",
      "System76 Lemur Pro lemp11", "Linux 6.9.3-76060903-generic x86_64", "Pop!_OS 22.04 LTS",
      "GNOME", "x11", "sys76", "wlp0s20f3", "499963174912", "16325684", true, 8⟩,
    ⟨"steamos-jupiter", "gaming-linux-native", "steamdeck", "Steam Deck", "Valve Jupiter",
      "Linux 6.5.0-valve22-1-neptune-65 x86_64", "SteamOS 3 (Holo)", "KDE", "x11", "deck",
      "wlan0", "10737418240", "15332852", true, 8⟩,
    ⟨"bazzite-rog-ally-reimage", "gaming-linux-reimage", "bazzite", "ROG Ally RC71L",
      "ASUSTeK ROG Ally RC71L", "Linux 6.8.10-bazzite x86_64", "Bazzite 40", "KDE", "wayland",
      "bazzite", "wlan0", "499963174912", "15324572", true, 4⟩,
    ⟨"debian-z440-e5v4", "legacy-linux-revival", "z440", "Z440 Workstation",
      "HP Z440 Workstation", "Linux 6.1.0-35-amd64 x86_64", "Debian GNU/Linux 12", "XFCE", "x11",
      "work", "enp0s25", "999653638144", "32811340", false, 10⟩,
    ⟨"mint-optiplex7040-i5", "legacy-linux-revival", "mint-desk", "OptiPlex 7040",
      "Dell OptiPlex 7040", "Linux 5.15.0-126-generic x86_64", "Linux Mint 21.3", "Cinnamon",
      "x11", "user", "enp0s31f6", "255852544000", "8032460", false, 9⟩,
    ⟨"lubuntu-thinkpad-x230", "legacy-linux-revival", "x230", "ThinkPad X230",
      "Lenovo ThinkPad X230", "Linux 6.8.0-52-generic x86_64", "Lubuntu 24.04 LTS", "LXQt",
      "x11", "user", "wlp3s0", "255852544000", "8032460", true, 7⟩,
    ⟨"arch-x670-ryzen9-7950x", "high-end-linux-enthusiast", "zen4", "X670 AORUS ELITE AX",
      "Gigabyte X670 AORUS ELITE AX", "Linux 6.9.7-arch1-1 x86_64", "Arch Linux", "KDE",
      "wayland", "aurora", "enp6s0", "1999307276288", "65781248", false, 2⟩,
    ⟨"popos-thelio-9950x", "high-end-linux-enthusiast", "thelio", "Thelio Mira thelio-r5-n1",
      "System76 Thelio Mira thelio-r5-n1", "Linux 6.12.10-76061203-generic x86_64",
      "Pop!_OS 24.04 LTS", "COSMIC", "wayland", "developer", "enp5s0", "1999307276288",
      "49315840", false, 2⟩,
    ⟨"arch-z790-i9-13900k", "high-end-linux-enthusiast", "raptor", "PRIME Z790-P WIFI",
      "ASUSTeK PRIME Z790-P WIFI", "Linux 6.9.7-arch1-1 x86_64", "Arch Linux", "KDE", "wayland",
      "user", "enp4s0", "1999307276288", "65781248", false, 1⟩,
    ⟨"fedora-z790-i9-14900k", "high-end-linux-enthusiast", "raptor14", "PRO Z790-A MAX WIFI",
      "MSI PRO Z790-A MAX WIFI", "Linux 6.9.7-200.fc40.x86_64 x86_64", "Fedora Linux 40",
      "GNOME", "wayland", "user", "enp5s0", "1999307276288", "65781248", false, 1⟩,
    ⟨"ubuntu-z890-ultra9-285k", "high-end-linux-enthusiast", "arrow", "PRIME Z890-P WIFI",
      "ASUSTeK PRIME Z890-P WIFI", "Linux 6.11.0-17-generic x86_64", "Ubuntu 24.04.2 LTS",
      "GNOME", "wayland", "user", "enp6s0", "1999307276288", "65781248", false, 1⟩,
    ⟨"ubuntu-precision7875-7975wx", "linux-workstation", "precision-tr", "Precision 7875 Tower",
      "Dell Precision 7875 Tower", "Linux 6.8.0-60-generic x86_64", "Ubuntu 24.04 LTS", "GNOME",
      "x11", "workstation", "enp4s0", "1999307276288", "131595264", false, 2⟩,
    ⟨"ubuntu-precision5860-xeonw7", "linux-workstation", "precision-xeon",
      "Precision 5860 Tower", "Dell Precision 5860 Tower", "Linux 6.8.0-60-generic x86_64",
      "Ubuntu 24.04 LTS", "GNOME", "x11", "workstation", "enp4s0", "1999307276288", "131595264",
      false, 1⟩,
    ⟨"rocky-h12ssl-epyc7443p", "linux-workstation", "epyc-ws", "H12SSL-i", "Supermicro H12SSL-i",
      "Linux 5.14.0-427.24.1.el9_4.x86_64 x86_64", "Rocky Linux 9.4", "GNOME", "x11",
      "workstation", "enp65s0f0", "1999307276288", "131595264", false, 1⟩]

/-! ## The choice of a template -/

/-- The loop of `select_template`. -/
def selectFrom : List SyntheticTemplate → Nat → Option SyntheticTemplate
  | [], _ => none
  | template :: rest, selected =>
      if selected < template.weight then some template
      else selectFrom rest (selected - template.weight)

def totalWeight (templates : List SyntheticTemplate) : Nat :=
  (templates.map SyntheticTemplate.weight).sum

theorem templates_ne_nil : templates ≠ [] := by decide

def selectTemplate (sample : UInt16) : SyntheticTemplate :=
  (selectFrom templates (sample.toNat % totalWeight templates)).getD
    (templates.getLast templates_ne_nil)

/-- The template in whose part of the total weight the number lies. -/
structure Selects (templates : List SyntheticTemplate) (selected : Nat)
    (template : SyntheticTemplate) (before after : List SyntheticTemplate) : Prop where
  split : templates = before ++ template :: after
  low : totalWeight before ≤ selected
  high : selected < totalWeight before + template.weight

theorem exists_selects (templates : List SyntheticTemplate) {selected : Nat}
    (hselected : selected < totalWeight templates) :
    ∃ template before after, selectFrom templates selected = some template ∧
      Selects templates selected template before after := by
  induction templates generalizing selected with
  | nil => exact absurd hselected (Nat.not_lt_zero _)
  | cons first rest ih =>
      unfold selectFrom
      split
      · next hfirst =>
          exact ⟨first, [], rest, rfl, rfl, Nat.zero_le _, by simpa [totalWeight] using hfirst⟩
      · next hlater =>
          have hrest : selected - first.weight < totalWeight rest := by
            simp only [totalWeight, List.map_cons, List.sum_cons] at hselected ⊢
            omega
          obtain ⟨template, before, after, hfound, hselects⟩ := ih hrest
          obtain ⟨hsplit, hlow, hhigh⟩ := hselects
          refine ⟨template, first :: before, after, hfound, by rw [hsplit]; rfl, ?_, ?_⟩
          · simp only [totalWeight, List.map_cons, List.sum_cons] at hlow ⊢
            omega
          · simp only [totalWeight, List.map_cons, List.sum_cons] at hhigh ⊢
            omega

/-- The last template is never needed as a way out. -/
theorem selectTemplate_selects (sample : UInt16) :
    ∃ before after, Selects templates (sample.toNat % 96) (selectTemplate sample) before after := by
  have htotal : totalWeight templates = 96 := by decide
  have hselected : sample.toNat % 96 < totalWeight templates := by
    rw [htotal]
    exact Nat.mod_lt _ (by decide)
  obtain ⟨template, before, after, hfound, hselects⟩ := exists_selects templates hselected
  refine ⟨before, after, ?_⟩
  rw [selectTemplate, htotal, hfound]
  exact hselects

/-! ## Generation -/

def hostname (template : SyntheticTemplate) (byte : UInt8) : String :=
  template.hostPrefix ++ "-" ++ toString (10 + byte.toNat % 89)

/-- The texts of the portrait that is made of a template. -/
def generatedPortrait (template : SyntheticTemplate) (byte : UInt8) : PortraitText where
  archetype := template.archetype
  profileCategory := template.category
  hostname := hostname template byte
  deviceName := template.deviceName
  hardwareModel := template.hardwareModel
  osRelease := template.osRelease
  distro := template.distro
  desktopEnvironment := template.desktopEnvironment
  sessionType := template.sessionType
  loginName := template.loginName
  networkInterface := template.networkInterface
  rootFilesystemBytes := template.rootFilesystemBytes
  memoryTotalKib := template.memoryTotalKib
  timezone := "Asia/Shanghai"

/-- The identifier of the first sixteen bytes, with its version and variant. -/
def generatedGuid (random : Vector UInt8 24) : Vector UInt8 16 :=
  #v[random[0], random[1], random[2], random[3], random[4], random[5],
    (random[6] &&& 0x0f) ||| 0x40, random[7], (random[8] &&& 0x3f) ||| 0x80, random[9],
    random[10], random[11], random[12], random[13], random[14], random[15]]

def generatedMac (random : Vector UInt8 24) : Vector UInt8 6 :=
  #v[(random[16] ||| 0x02) &&& 0xfe, random[17], random[18], random[19], random[20], random[21]]

/-- `u16::from_be_bytes` of the last two bytes. -/
def sample (random : Vector UInt8 24) : UInt16 :=
  random[22].toUInt16 <<< 8 ||| random[23].toUInt16

def generatedPower (template : SyntheticTemplate) : DevicePower :=
  if template.portable then .portable 85 true else .desktop

/-- `generate`, from the bytes that the system gives. -/
def generate (random : Vector UInt8 24) : Except DeviceFileError DeviceProfile := do
  let template := selectTemplate (sample random)
  let portrait ← profileResult (DevicePortrait.new (generatedPortrait template random[21]))
  profileResult (DeviceProfile.fromPortrait (canonicalToWireGuid (generatedGuid random))
    (generatedMac random) portrait (generatedPower template))

/-! ## Every template is valid -/

/-- A printable byte of ASCII. -/
def printable (byte : UInt8) : Bool :=
  0x20 ≤ byte && byte ≤ 0x7e

/-- Printable bytes without a space at either end. -/
def plainBytes (bytes : List UInt8) : Bool :=
  bytes.all printable && bytes.head?.any (· ≠ 0x20) && bytes.getLast?.any (· ≠ 0x20)

/-- The texts of a template that go into its portrait as they are. -/
def SyntheticTemplate.texts (template : SyntheticTemplate) : List String :=
  [template.archetype, template.category, template.deviceName, template.hardwareModel,
    template.osRelease, template.distro, template.desktopEnvironment, template.sessionType,
    template.loginName, template.networkInterface, template.rootFilesystemBytes,
    template.memoryTotalKib]

theorem templates_plain : ∀ template ∈ templates, ∀ text ∈ template.texts,
    plainBytes (utf8Bytes text) = true ∧ text.utf8ByteSize ≤ 96 := by
  decide

theorem templates_decimal : ∀ template ∈ templates,
    validPositiveDecimal template.rootFilesystemBytes = true ∧
      validPositiveDecimal template.memoryTotalKib = true := by
  decide

theorem hostPrefix_plain : ∀ template ∈ templates,
    plainBytes (utf8Bytes template.hostPrefix) = true ∧ template.hostPrefix.utf8ByteSize ≤ 14 ∧
      template.hostPrefix.toList.all isHostnameChar = true ∧
        template.hostPrefix.toList.head?.any (· ≠ '-') = true := by
  decide

theorem hostNumber_plain : ∀ number ∈ List.range 89,
    plainBytes (utf8Bytes (toString (10 + number))) = true ∧
      (toString (10 + number)).toList.all isDigit = true := by
  decide

theorem timezone_plain : plainBytes (utf8Bytes "Asia/Shanghai") = true := by decide

theorem ascii_of_encoded {char : Char}
    (hbytes : ∀ byte ∈ String.utf8EncodeChar char, byte.toNat < 128) : char.toNat < 128 := by
  unfold String.utf8EncodeChar at hbytes
  dsimp only at hbytes
  show char.val.toNat < 128
  split at hbytes
  · omega
  · -- the first byte of a longer encoding is no byte of ASCII
    exfalso
    split at hbytes
    · have hfirst := hbytes _ List.mem_cons_self
      simp at hfirst
      omega
    · split at hbytes
      · have hfirst := hbytes _ List.mem_cons_self
        simp at hfirst
        omega
      · have hfirst := hbytes _ List.mem_cons_self
        simp at hfirst
        omega

/-- A text of printable bytes is one of their characters. -/
theorem chars_of_printable {text : String} (hplain : (utf8Bytes text).all printable = true) :
    utf8Bytes text = text.toList.map asciiByte ∧
      ∀ char ∈ text.toList, char.toNat < 128 ∧ printable (asciiByte char) = true := by
  have hprintable : ∀ byte ∈ utf8Bytes text, printable byte = true := List.all_eq_true.mp hplain
  have hencoded := utf8Bytes_eq_flatMap text
  have hascii : ∀ char ∈ text.toList, char.toNat < 128 := by
    intro char hchar
    refine ascii_of_encoded fun byte hbyte => ?_
    have hmem : byte ∈ utf8Bytes text := by
      rw [hencoded]
      exact List.mem_flatMap.mpr ⟨char, hchar, hbyte⟩
    have hbound := hprintable byte hmem
    simp only [printable, Bool.and_eq_true, decide_eq_true_eq, UInt8.le_iff_toNat_le] at hbound
    have htop : (0x7e : UInt8).toNat = 126 := rfl
    omega
  have hbytes : utf8Bytes text = text.toList.map asciiByte := by
    rw [hencoded, encode_ascii hascii]
  refine ⟨hbytes, fun char hchar => ⟨hascii char hchar, hprintable _ ?_⟩⟩
  rw [hbytes]
  exact List.mem_map_of_mem hchar

/-- The characters of a plain text. -/
structure PlainChars (chars : List Char) : Prop where
  bounds : ∀ char ∈ chars, 0x20 ≤ char.toNat ∧ char.toNat ≤ 0x7e
  first : ∃ char rest, chars = char :: rest ∧ char.toNat ≠ 0x20
  last : ∃ front char, chars = front ++ [char] ∧ char.toNat ≠ 0x20

theorem plainChars_of_plain {text : String} (hplain : plainBytes (utf8Bytes text) = true) :
    PlainChars text.toList := by
  rw [plainBytes, Bool.and_eq_true, Bool.and_eq_true] at hplain
  obtain ⟨⟨hall, hhead⟩, hlast⟩ := hplain
  obtain ⟨hbytes, hchars⟩ := chars_of_printable hall
  have hspace : ∀ char : Char, asciiByte char ≠ 0x20 → char.toNat ≠ 0x20 := by
    intro char hbyte hcode
    exact hbyte (by rw [asciiByte, hcode]; rfl)
  constructor
  · intro char hchar
    obtain ⟨hascii, hprintable⟩ := hchars char hchar
    simp only [printable, asciiByte, Bool.and_eq_true, decide_eq_true_eq, UInt8.le_iff_toNat_le,
      UInt8.toNat_ofNat', UInt8.reduceToNat] at hprintable
    omega
  · rw [hbytes] at hhead
    cases hchars : text.toList with
    | nil =>
        rw [hchars] at hhead
        cases hhead
    | cons char rest =>
        rw [hchars] at hhead
        exact ⟨char, rest, rfl, hspace char (by simpa using hhead)⟩
  · rw [hbytes] at hlast
    rcases List.eq_nil_or_concat text.toList with hnil | ⟨front, char, hsplit⟩
    · rw [hnil] at hlast
      cases hlast
    · rw [List.concat_eq_append] at hsplit
      rw [hsplit] at hlast
      exact ⟨front, char, hsplit, hspace char (by simpa using hlast)⟩

theorem PlainChars.trim {text : String} (hplain : PlainChars text.toList) : trim text = text := by
  have hsolid : ∀ char ∈ text.toList, char.toNat ≠ 0x20 → isWhitespace char = false := by
    intro char hchar hspace
    have hbounds := hplain.bounds char hchar
    simp only [isWhitespace, Bool.or_eq_false_iff, Bool.and_eq_false_iff, decide_eq_false_iff_not,
      beq_eq_false_iff_ne]
    omega
  obtain ⟨first, rest, hfirst, hfirstSpace⟩ := hplain.first
  obtain ⟨front, last, hlast, hlastSpace⟩ := hplain.last
  have hleft : text.toList.dropWhile isWhitespace = text.toList := by
    rw [hfirst, List.dropWhile_cons_of_neg]
    rw [hsolid first (hfirst ▸ List.mem_cons_self) hfirstSpace]
    exact Bool.false_ne_true
  have hright : text.toList.reverse.dropWhile isWhitespace = text.toList.reverse := by
    rw [hlast, List.reverse_append, List.reverse_singleton, List.singleton_append,
      List.dropWhile_cons_of_neg]
    rw [hsolid last (by simp [hlast]) hlastSpace]
    exact Bool.false_ne_true
  rw [Lib.trim, hleft, hright, List.reverse_reverse, String.ofList_toList]

theorem validText_of_plain {text : String} (hplain : plainBytes (utf8Bytes text) = true)
    (hsize : text.utf8ByteSize ≤ 96) : validText text = true := by
  have hchars := plainChars_of_plain hplain
  have hcontrol : hasControl text = false := by
    rw [hasControl, List.any_eq_false]
    intro char hchar
    have hbounds := hchars.bounds char hchar
    simp only [isControl, Bool.or_eq_true, Bool.and_eq_true, decide_eq_true_eq, not_or, not_and]
    omega
  have hsome : text ≠ "" := by
    rintro rfl
    obtain ⟨first, rest, hfirst, -⟩ := hchars.first
    cases hfirst
  simp only [validText, Bool.and_eq_true, decide_eq_true_eq, hchars.trim, hcontrol]
  exact ⟨⟨⟨by simpa using hsome, hsize⟩, trivial⟩, rfl⟩

/-! ## The generated portrait is valid -/

theorem utf8Bytes_append (first second : String) :
    utf8Bytes (first ++ second) = utf8Bytes first ++ utf8Bytes second := by
  rw [utf8Bytes_eq_flatMap, String.toList_append, List.flatMap_append, ← utf8Bytes_eq_flatMap,
    ← utf8Bytes_eq_flatMap]

theorem plainBytes_append {first middle last : List UInt8} (hfirst : plainBytes first = true)
    (hmiddle : middle.all printable = true) (hlast : plainBytes last = true) :
    plainBytes (first ++ middle ++ last) = true := by
  rw [plainBytes, Bool.and_eq_true, Bool.and_eq_true] at hfirst hlast ⊢
  obtain ⟨⟨hfirstAll, hhead⟩, -⟩ := hfirst
  obtain ⟨⟨hlastAll, -⟩, hend⟩ := hlast
  refine ⟨⟨?_, ?_⟩, ?_⟩
  · simp [hfirstAll, hmiddle, hlastAll]
  · cases first with
    | nil => cases hhead
    | cons byte rest => exact hhead
  · rcases List.eq_nil_or_concat last with rfl | ⟨front, byte, rfl⟩
    · cases hend
    · simpa using hend

section Generated

variable {template : SyntheticTemplate} (htemplate : template ∈ templates)

theorem hostNumber_valid (byte : UInt8) :
    plainBytes (utf8Bytes (toString (10 + byte.toNat % 89))) = true ∧
      (toString (10 + byte.toNat % 89)).toList.all isDigit = true :=
  hostNumber_plain _ (List.mem_range.mpr (Nat.mod_lt _ (by decide)))

theorem hostNumber_size (byte : UInt8) :
    (toString (10 + byte.toNat % 89)).utf8ByteSize ≤ 2 := by
  refine toString_utf8ByteSize_le (by decide) ?_
  have hsmall := Nat.mod_lt byte.toNat (show 0 < 89 by decide)
  omega

include htemplate in
theorem hostname_size (byte : UInt8) : (hostname template byte).utf8ByteSize ≤ 17 := by
  have hprefix := (hostPrefix_plain template htemplate).2.1
  have hnumber := hostNumber_size byte
  have hdash : "-".utf8ByteSize = 1 := by decide
  rw [hostname, String.utf8ByteSize_append, String.utf8ByteSize_append, hdash]
  omega

include htemplate in
theorem hostname_plain (byte : UInt8) : plainBytes (utf8Bytes (hostname template byte)) = true := by
  rw [hostname, utf8Bytes_append, utf8Bytes_append]
  exact plainBytes_append (hostPrefix_plain template htemplate).1 (by decide)
    (hostNumber_valid byte).1

include htemplate in
theorem validHostname_hostname (byte : UInt8) : validHostname (hostname template byte) = true := by
  obtain ⟨-, -, hletters, hhead⟩ := hostPrefix_plain template htemplate
  obtain ⟨hplain, hdigits⟩ := hostNumber_valid byte
  have hsize := hostname_size htemplate byte
  have hchars : (hostname template byte).toList =
      template.hostPrefix.toList ++ ['-'] ++ (toString (10 + byte.toNat % 89)).toList := by
    rw [hostname, String.toList_append, String.toList_append]
    rfl
  simp only [validHostname, Bool.and_eq_true, decide_eq_true_eq]
  refine ⟨⟨⟨by omega, ?_⟩, ?_⟩, ?_⟩
  · rw [hchars, List.all_append, List.all_append, hletters, Bool.true_and, Bool.and_eq_true]
    refine ⟨by decide, List.all_eq_true.mpr fun char hchar => ?_⟩
    rw [isHostnameChar, List.all_eq_true.mp hdigits char hchar]
    simp
  · rw [hchars]
    cases hfirst : template.hostPrefix.toList with
    | nil =>
        rw [hfirst] at hhead
        cases hhead
    | cons char rest =>
        rw [hfirst] at hhead
        simpa using hhead
  · obtain ⟨front, last, hlast, -⟩ := (plainChars_of_plain hplain).last
    rw [hchars, hlast]
    rw [hlast] at hdigits
    have hdigit := List.all_eq_true.mp hdigits last (by simp)
    rw [← List.append_assoc, List.getLast?_concat]
    intro hdash
    rw [Option.some.inj hdash] at hdigit
    exact absurd hdigit (by decide)

include htemplate in
/-- A template gives a valid portrait with every host number. -/
theorem generatedPortrait_valid (byte : UInt8) : (generatedPortrait template byte).Valid := by
  have htexts := templates_plain template htemplate
  have hhost : validText (hostname template byte) = true :=
    validText_of_plain (hostname_plain htemplate byte)
      ((hostname_size htemplate byte).trans (by decide))
  have hzone : validText "Asia/Shanghai" = true := validText_of_plain timezone_plain (by decide)
  have hfixed : ∀ text ∈ template.texts, validText text = true := fun text htext =>
    validText_of_plain (htexts text htext).1 (htexts text htext).2
  refine ⟨?_, validHostname_hostname htemplate byte, (templates_decimal template htemplate).1,
    (templates_decimal template htemplate).2⟩
  simp only [SyntheticTemplate.texts, List.forall_mem_cons] at hfixed
  simp only [PortraitText.texts, generatedPortrait, List.forall_mem_cons]
  obtain ⟨harchetype, hcategory, hname, hmodel, hrelease, hdistro, hdesktop, hsession, hlogin,
    hinterface, hroot, hmemory, -⟩ := hfixed
  exact ⟨harchetype, hcategory, hhost, hname, hmodel, hrelease, hdistro, hdesktop, hsession,
    hlogin, hinterface, hroot, hmemory, hzone, by simp⟩

end Generated

/-! ## The generated identifiers -/

/-- What holds of all bytes is seen from a table. -/
theorem forall_byte {holds : UInt8 → Prop}
    (htable : ∀ value ∈ List.range 256, holds (UInt8.ofNat value)) (byte : UInt8) :
    holds byte := by
  have hbyte := htable byte.toNat (List.mem_range.mpr byte.toNat_lt)
  rwa [UInt8.ofNat_toNat] at hbyte

set_option maxRecDepth 4000 in
theorem version_bits : ∀ byte : UInt8, ((byte &&& 0x0f) ||| 0x40) >>> 4 = 4 ∧
    ((byte &&& 0x0f) ||| 0x40) &&& 0x0f = byte &&& 0x0f :=
  forall_byte (by decide)

set_option maxRecDepth 4000 in
theorem variant_bits : ∀ byte : UInt8, ((byte &&& 0x3f) ||| 0x80) >>> 6 = 2 ∧
    ((byte &&& 0x3f) ||| 0x80) &&& 0x3f = byte &&& 0x3f :=
  forall_byte (by decide)

set_option maxRecDepth 4000 in
theorem address_bits : ∀ byte : UInt8, ((byte ||| 0x02) &&& 0xfe) &&& 0x03 = 2 ∧
    ((byte ||| 0x02) &&& 0xfe) &&& 0xfc = byte &&& 0xfc :=
  forall_byte (by decide)

theorem guid_le_random : 16 ≤ 24 := by decide

theorem address_le_random : 16 + 6 ≤ 24 := by decide

/-- An identifier of version 4 with the bits of the random bytes everywhere else. -/
structure RandomGuid (guid : Vector UInt8 16) (random : Vector UInt8 24) : Prop where
  version : guid.get 6 >>> 4 = 4
  variant : guid.get 8 >>> 6 = 2
  low : guid.get 6 &&& 0x0f = random.get 6 &&& 0x0f
  clock : guid.get 8 &&& 0x3f = random.get 8 &&& 0x3f
  others : ∀ index : Fin 16, index ≠ 6 → index ≠ 8 →
    guid.get index = random.get (index.castLE guid_le_random)

/-- A locally administered unicast address with the bits of the random bytes elsewhere. -/
structure RandomAddress (address : Vector UInt8 6) (random : Vector UInt8 24) : Prop where
  kind : address.get 0 &&& 0x03 = 2
  first : address.get 0 &&& 0xfc = random.get 16 &&& 0xfc
  others : ∀ index : Fin 6, index ≠ 0 →
    address.get index = random.get ((index.natAdd 16).castLE address_le_random)

theorem randomGuid_generated (random : Vector UInt8 24) :
    RandomGuid (generatedGuid random) random where
  version := (version_bits random[6]).1
  variant := (variant_bits random[8]).1
  low := (version_bits random[6]).2
  clock := (variant_bits random[8]).2
  others := by
    rintro ⟨index, hindex⟩ hversion hvariant
    interval_cases index <;> first | rfl | exact absurd rfl hversion | exact absurd rfl hvariant

theorem randomAddress_generated (random : Vector UInt8 24) :
    RandomAddress (generatedMac random) random where
  kind := (address_bits random[16]).1
  first := (address_bits random[16]).2
  others := by
    rintro ⟨index, hindex⟩ hfirst
    interval_cases index <;> first | rfl | exact absurd rfl hfirst

theorem validIdentity_generated (random : Vector UInt8 24) (template : SyntheticTemplate) :
    ValidIdentity (canonicalToWireGuid (generatedGuid random)) (generatedMac random)
      (generatedPower template) := by
  have hversion := (randomGuid_generated random).version
  have hkind := (randomAddress_generated random).kind
  refine ⟨?_, ?_, ?_, ?_, ?_⟩
  · intro hzero
    have hbyte : (generatedGuid random).get 6 = 0 :=
      congrArg (fun guid : Vector UInt8 16 => guid[7]) hzero
    rw [hbyte] at hversion
    exact absurd hversion (by decide)
  · intro hzero
    rw [hzero] at hkind
    exact absurd hkind (by decide)
  · intro hbroadcast
    rw [hbroadcast] at hkind
    exact absurd hkind (by decide)
  · have hsplit : (generatedMac random)[0] &&& (1 : UInt8) =
        ((generatedMac random).get 0 &&& (3 : UInt8)) &&& (1 : UInt8) := by
      rw [UInt8.and_assoc]
      rfl
    rw [hsplit, hkind]
    rfl
  · unfold generatedPower
    split
    · show (85 : UInt8).toNat ≤ 100
      decide
    · trivial

theorem selectTemplate_mem (sample : UInt16) : selectTemplate sample ∈ templates := by
  obtain ⟨before, after, hselects⟩ := selectTemplate_selects sample
  rw [hselects.split]
  simp

/-- The portrait of the random bytes. -/
def portraitOf (random : Vector UInt8 24) : DevicePortrait :=
  ⟨_, generatedPortrait_valid (selectTemplate_mem (sample random)) random[21]⟩

theorem generate_eq (random : Vector UInt8 24) :
    generate random = profileResult (DeviceProfile.fromPortrait
      (canonicalToWireGuid (generatedGuid random)) (generatedMac random) (portraitOf random)
      (generatedPower (selectTemplate (sample random)))) := by
  have hportrait : profileResult (DevicePortrait.new
      (generatedPortrait (selectTemplate (sample random)) random[21])) = .ok (portraitOf random) :=
    profileResult_eq_ok_iff.mpr (DevicePortrait.new_eq_ok_iff.mpr rfl)
  rw [generate, hportrait]
  rfl

/-- The profiles that are generated. -/
theorem generate_eq_ok_iff {random : Vector UInt8 24} {profile : DeviceProfile} :
    generate random = .ok profile ↔
      profile.Derived ∧ profile.guid = canonicalToWireGuid (generatedGuid random) ∧
        profile.macAddress = generatedMac random ∧
        profile.portrait.text = generatedPortrait (selectTemplate (sample random)) random[21] ∧
        profile.power = generatedPower (selectTemplate (sample random)) := by
  rw [generate_eq, profileResult_eq_ok_iff, DeviceProfile.fromPortrait_eq_ok_iff,
    DevicePortrait.ext_iff]
  rfl

theorem returns_generate (random : Vector UInt8 24) : Returns (generate random) := by
  rw [generate_eq, DeviceProfile.fromPortrait, dif_pos (validIdentity_generated random _)]
  exact returns_ok _

/-- Generation never fails: whatever the random bytes are, it gives a profile that its own
file is read back to, with a random identifier of version 4, a random local address, and the
portrait of the template in whose part of the weights the last two bytes lie. -/
theorem generate_law (random : Vector UInt8 24) :
    ∃ profile before after, generate random = .ok profile ∧
      (DeviceFile.fromProfile profile).intoProfile = .ok profile ∧
      RandomGuid (wireToCanonicalGuid profile.guid) random ∧
      RandomAddress profile.macAddress random ∧
      Selects templates ((sample random).toNat % 96) (selectTemplate (sample random)) before
        after ∧
      profile.portrait.text = generatedPortrait (selectTemplate (sample random)) random[21] ∧
      profile.power = generatedPower (selectTemplate (sample random)) := by
  obtain ⟨before, after, hselects⟩ := selectTemplate_selects (sample random)
  obtain ⟨profile, hgenerated⟩ := returns_generate random
  obtain ⟨hderived, hguid, hmac, hshown, hpower⟩ := generate_eq_ok_iff.mp hgenerated
  refine ⟨profile, before, after, hgenerated, DeviceFile.intoProfile_fromProfile hderived, ?_, ?_,
    hselects, hshown, hpower⟩
  · rw [hguid]
    exact randomGuid_generated random
  · rw [hmac]
    exact randomAddress_generated random

end Config
end Lirvena
