import GirDoc.Link

/-!
# Fundamental types

The types that every language has under a name of its own, with links to that language's manual.
-/

namespace GirDoc.Fundamentals

/-- A link to a page of a manual. -/
def manual (ref title : String) : Link :=
  { ref := some ref, title := some title, id := none }

/-- A link to a global object of JavaScript. -/
def global (object title : String) : Link :=
  manual ("https://developer.mozilla.org/en-US/docs/Web/JavaScript/Reference/Global_Objects/"
    ++ object) title

/-- Names that share one link. -/
def sharing (link : Link) (names : List String) : List (String × Link) :=
  names.map fun name => (name, link)

/-- The fundamental types of JavaScript. -/
def javascript : List (String × Link) :=
  sharing (global "String" "String") ["gchararray", "gunichar", "utf8"] ++
  sharing (manual "https://developer.mozilla.org/en-US/docs/Glossary/Number" "Number")
    ["gchar", "guchar", "gint8", "guint8", "gint16", "guint16", "gint32", "guint32", "gint64",
      "guint64", "gshort", "gint", "guint", "glong", "gulong", "gsize", "gssize", "gintptr",
      "guintptr", "gfloat", "gdouble", "gboolean"] ++
  sharing (global "Boolean" "true") ["TRUE"] ++
  sharing (global "Boolean" "false") ["FALSE"] ++
  sharing (global "Object" "Object") ["gpointer"] ++
  sharing (global "null" "null") ["NULL"]

/-- The fundamental types of Python. -/
def python : List (String × Link) :=
  sharing (manual "https://docs.python.org/2/library/constants.html#None" "None")
    ["none", "NULL"] ++
  sharing (manual "https://docs.python.org/2.7/library/functions.html#object" "object")
    ["gpointer", "gconstpointer"] ++
  sharing (manual "https://docs.python.org/2.7/library/functions.html#bool" "bool")
    ["gboolean"] ++
  sharing (manual "https://docs.python.org/2/library/functions.html#int" "int")
    ["gint8", "guint8", "gint15", "guint16", "gint32", "guint32", "gchar", "guchar", "gshort",
      "gushort", "gint", "guint", "gsize", "gssize", "goffset", "gintptr", "guintptr", "glong",
      "gulong", "gint64", "guint64", "long long", "unsigned long long"] ++
  sharing (manual "https://docs.python.org/2/library/functions.html#float" "float")
    ["gfloat", "gdouble", "long double"] ++
  sharing (manual "https://docs.python.org/2/library/functions.html#unicode" "unicode")
    ["utf8", "gunichar"] ++
  sharing (manual "https://docs.python.org/2.7/library/functions.html#str" "str")
    ["filename", "gchararray"] ++
  sharing (manual
      "https://developer.gnome.org/gobject/stable/gobject-Type-Information.html#GType"
      "GObject.Type") ["GType"] ++
  sharing (manual "https://developer.gnome.org/glib/stable/glib-GVariant.html" "GLib.Variant")
    ["GVariant"] ++
  sharing (manual "https://docs.python.org/2/library/constants.html#True" "True") ["TRUE"] ++
  sharing (manual "https://docs.python.org/2/library/constants.html#False" "False") ["FALSE"]

/-- The fundamental types of a language; C has none. -/
def ofLanguage (language : Option String) : List (String × Link) :=
  match language with
  | some "python" => python
  | some "javascript" => javascript
  | _ => []

end GirDoc.Fundamentals
