import GirDoc.Build
import GirDoc.Value.Basic

/-!
# The package's description

The settings under which the package is installed.
-/

namespace GirDoc.Package

/-- A list of texts as a value. -/
def texts (items : List String) : Value := .list (items.map .text)

/-- A module as a value: its class, name, sources and dependencies. -/
def moduleValue (m : Build.Module) (depends : List String) : Value :=
  .list [.text "FlexExtension", .text m.name, texts m.sources, texts depends]

/-- The settings of the package for a version and the packages that it holds. -/
def settings (version : String) (packages : List String) : Value :=
  .dict [
    ("name", .text "hotdoc_c_extension"),
    ("version", .text version),
    ("keywords", .text "C clang hotdoc"),
    ("url", .text "https://github.com/hotdoc/hotdoc_c_extension"),
    ("author_email", .text "mathieu.duponchelle@opencreed.com"),
    ("license", .text "LGPLv2.1+"),
    ("description", .text "An extension for hotdoc that parses C using clang"),
    ("author", .text "Mathieu Duponchelle"),
    ("packages", texts packages),
    ("package_data", .dict [
      ("", texts ["*.html"]),
      ("hotdoc_c_extension", texts ["VERSION.txt"]),
      ("hotdoc_c_extension.transition_scripts", texts ["translate_sections.sh"])]),
    ("entry_points", .dict [
      ("hotdoc.extensions",
        .text "get_extension_classes = hotdoc_c_extension.extensions:get_extension_classes")]),
    ("scripts", texts [
      "hotdoc_c_extension/transition_scripts/hotdoc_gtk_doc_porter",
      "hotdoc_c_extension/transition_scripts/hotdoc_gtk_doc_scan_parser"]),
    ("cmdclass", .dict [("build_ext", .text "build_ext")]),
    ("ext_modules", .list [moduleValue Build.scannerModule Build.scannerDepends]),
    ("install_requires", texts ["pkgconfig==1.1.0", "cchardet"])]

end GirDoc.Package
