import MethodAudit.Proofs.StoredCache

/-!
A cache that is saved and loaded again.

Loading right after saving gives the cache back, whatever texts it holds. A cache belongs to a
folder: it is the same for every path that leads to the folder or to a file in it. Its text has at
most seven brackets inside each other, so a reader that limits nesting reads it like any other.
-/

namespace MethodAudit

open FileTree

/-- The path leads to the folder, or to a file in it. -/
def FileTree.LeadsInto (t : FileTree) (p : Path) (ns : List String) : Prop :=
  (t.reach p = .ok ns ∧ t.kindAt ns = some .folder) ∨
    ∃ name content, t.locate p = .ok (ns ++ [name]) ∧
      t.kindAt (ns ++ [name]) = some (.file content)

namespace Cache

/-- A cache as it can be: one unit for each key, with counts of 64 bits. -/
structure Sound (c : Cache) : Prop where
  keys : (c.units.map Prod.fst).Nodup
  fits : c.Fits

variable {t t' : FileTree} {root : Path} {ns : List String} {c : Cache} {rules : List Rule}

/-- Seven levels of nesting are enough to read the text of a cache. -/
lemma decode_text (hc : c.Sound) {limit : Nat} (h : 8 ≤ limit) :
    Json.decode Reader.cacheSchema.decode (some limit) c.text = .ok c := by
  obtain ⟨k, rfl⟩ := Nat.exists_eq_add_of_le' h
  have hdecode := (Reader.decodes_cache (k := k) c).decode (Json.spells_pretty c.natural_toJson)
  have htext := eq_ok_of_toOption (hdecode.1 hc.fits)
  rwa [ofEntries_of_nodup hc.keys] at htext

/-- The paths into a folder are those that have it as the base of their cache. -/
lemma leadsInto_iff :
    t.LeadsInto root ns ↔ t.reach (base t root) = .ok ns ∧ t.kindAt ns = some .folder := by
  constructor
  · rintro (⟨hreach, hfolder⟩ | ⟨name, content, hlocate, hfile⟩)
    · rw [base_of_folder hreach hfolder]
      exact ⟨hreach, hfolder⟩
    · have hbase := reach_base_of_file hlocate hfile
      rw [List.dropLast_concat] at hbase
      exact ⟨hbase, folder_of_isSome_kindAt (List.cons_ne_nil name []) (by rw [hfile]; rfl)⟩
  · rintro ⟨hbase, hfolder⟩
    by_cases hfile : t.isFile root
    · obtain ⟨content, hread⟩ := isFile_iff.1 hfile
      obtain ⟨names, hlocate, hkind⟩ := readBytes_eq_ok.1 hread
      obtain ⟨-, last, folder, -, -, -, -, -, rfl⟩ := exists_folder_of_file hlocate hkind
      -- the folder of the file is the one the base leads to
      rw [reach_base_of_file hlocate hkind, List.dropLast_concat] at hbase
      obtain rfl := Except.ok.inj hbase
      exact .inr ⟨last, content, hlocate, hkind⟩
    · rw [base, if_neg hfile] at hbase
      exact .inl ⟨hbase, hfolder⟩

lemma locate_path {content : ByteArray} (hroot : t.LeadsInto root ns)
    (hfile : t.kindAt (ns ++ [folderName, fileName]) = some (.file content)) :
    t.locate (path t root) = .ok (ns ++ [folderName, fileName]) := by
  obtain ⟨hbase, hns⟩ := leadsInto_iff.1 hroot
  have hsplit : ns ++ [folderName, fileName] = (ns ++ [folderName]) ++ [fileName] := by simp
  rw [hsplit] at hfile ⊢
  have hfolder : t.kindAt (ns ++ [folderName]) = some .folder :=
    folder_of_isSome_kindAt (List.cons_ne_nil fileName []) (by rw [hfile]; rfl)
  have hreach : t.reach (folder t root) = .ok (ns ++ [folderName]) :=
    reach_of_locate (locate_join_of_reach hbase isName_folderName hns (by rw [hfolder]; rfl))
  exact locate_join_of_reach hreach isName_fileName hfolder (by rw [hfile]; rfl)

/-- Where the text of a cache stands, every path into the folder loads it. -/
lemma load_of_leadsInto (hc : c.Sound) (hcompatible : c.info.isCompatible rules)
    (hroot : t.LeadsInto root ns)
    (hfile : t.kindAt (ns ++ [folderName, fileName]) = some (.file c.text.toUTF8)) :
    load t root rules = (some c, t) := by
  have hread : t.readText (path t root) = .ok c.text :=
    readText_of_readBytes (readBytes_eq_ok.2 ⟨_, locate_path hroot hfile, hfile⟩)
  rw [load, look_of_readText hread hc.fits hc.keys, if_pos hcompatible]
  rfl

/-- The root of a cache that has been saved leads into the folder of the cache. -/
lemma exists_leadsInto_of_save {scratch : String} (hscratch : '/' ∉ scratch.toList)
    (hsize : ¬c.isOversized) (h : save t root scratch c = (t', .ok ())) :
    ∃ ns, t'.LeadsInto root ns ∧
      t'.kindAt (ns ++ [folderName, fileName]) = some (.file c.text.toUTF8) := by
  obtain ⟨ns, hlocate, hfile⟩ := exists_file_of_readText (readText_save hscratch hsize h)
  obtain ⟨ms, hbase, hnames⟩ := exists_base_of_locate_path hlocate
  obtain rfl := List.append_cancel_right hnames
  have hfolder : t'.kindAt ns = some .folder :=
    folder_of_isSome_kindAt (List.cons_ne_nil folderName [fileName]) (by rw [hfile]; rfl)
  exact ⟨ns, leadsInto_iff.2 ⟨hbase, hfolder⟩, hfile⟩

/-- **Round trip**: a cache that is not too large and has been saved is loaded as it was and left
where it is, with any rules it is compatible with, by the path it was saved for and by every other
path that leads to the same folder or to a file in it. No limit of nesting above seven levels keeps
it from being read. -/
theorem load_save {scratch : String} (hscratch : '/' ∉ scratch.toList) (hsize : ¬c.isOversized)
    (h : save t root scratch c = (t', .ok ())) (hc : c.Sound)
    (hcompatible : c.info.isCompatible rules) :
    load t' root rules = (some c, t') ∧
      (∃ ns, t'.LeadsInto root ns ∧ ∀ p, t'.LeadsInto p ns → load t' p rules = (some c, t')) ∧
      ∀ limit, 8 ≤ limit →
        Json.decode Reader.cacheSchema.decode (some limit) c.text = .ok c := by
  obtain ⟨ns, hroot, hfile⟩ := exists_leadsInto_of_save hscratch hsize h
  refine ⟨load_of_leadsInto hc hcompatible hroot hfile, ⟨ns, hroot, fun p hp => ?_⟩,
    fun limit hlimit => decode_text hc hlimit⟩
  exact load_of_leadsInto hc hcompatible hp hfile

/-! ### A cache of odd texts -/

/-- A key with a quote and a line break, a digest that is none, and violations with and without a
line and a verdict, made by another version of the tool. -/
def odd : Cache where
  info := ⟨1, "0.9", Rule.all.map Rule.name, 7⟩
  units := [
    ("say \"\n\x01\".json", ⟨"\\", ⟨"", "é.m", 0xffffffffffffffff, 1, [
      ⟨"", 255, "\t", ⟨"", "</", ⟨"a:b:", true⟩, some 0xffffffff⟩, "", some .possiblyUsed⟩,
      ⟨"", 0, "", ⟨"😀", "", ⟨"", false⟩, none⟩, "\x7f", none⟩]⟩⟩),
    ("", ⟨"", ⟨"", "", 0, 0, []⟩⟩)]

lemma sound_odd : odd.Sound where
  keys := by decide
  fits := by
    intro u hu
    simp only [odd, List.mem_cons, List.not_mem_nil, or_false] at hu
    rcases hu with rfl | rfl
    · exact ⟨by decide, by decide⟩
    · exact ⟨by decide, by decide⟩

theorem load_save_odd :
    ∃ t', save Sample.before Sample.dump "1.2.tmp" odd = (t', .ok ()) ∧
      odd.info.isCompatible Rule.all ∧ load t' Sample.dump Rule.all = (some odd, t') ∧
      load t' ⟨"."⟩ Rule.all = (some odd, t') := by
  obtain ⟨t', ht'⟩ : ∃ t', (save Sample.before Sample.dump "1.2.tmp" odd).1 = t' := ⟨_, rfl⟩
  obtain ⟨hsize, hsaved, hbase, hdot⟩ : ¬odd.isOversized ∧
      (save Sample.before Sample.dump "1.2.tmp" odd).2.toOption = some () ∧
      ((save Sample.before Sample.dump "1.2.tmp" odd).1.reach (base
        (save Sample.before Sample.dump "1.2.tmp" odd).1 Sample.dump)).toOption = some [] ∧
      ((save Sample.before Sample.dump "1.2.tmp" odd).1.reach ⟨"."⟩).toOption = some [] := by
    decide +kernel
  rw [ht'] at hbase hdot
  have hsave : save Sample.before Sample.dump "1.2.tmp" odd = (t', .ok ()) :=
    Prod.ext ht' (eq_ok_of_toOption hsaved)
  have hcompatible : odd.info.isCompatible Rule.all := by decide +kernel
  obtain ⟨hload, ⟨ns, hroot, hpaths⟩, -⟩ :=
    load_save (by decide) hsize hsave sound_odd hcompatible
  refine ⟨t', hsave, hcompatible, hload, hpaths _ ?_⟩
  -- the folder of the dump is the one that relative paths start from
  obtain ⟨hns, hfolder⟩ := leadsInto_iff.1 hroot
  obtain rfl := Except.ok.inj (hns.symm.trans (eq_ok_of_toOption hbase))
  exact .inl ⟨eq_ok_of_toOption hdot, hfolder⟩

end Cache

end MethodAudit
