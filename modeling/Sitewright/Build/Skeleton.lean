import Sitewright.Build.Options
import Sitewright.Json.Printer
import Sitewright.Markup.Escape
import Sitewright.Naming.Case
import Sitewright.Site.Config
import Sitewright.Site.Styles
import Sitewright.SourceFile

/-!
# The skeleton of a project

The files that every project has whatever its sections are: the package manifest, the settings of
the build tools, the global styles, the layout around all pages and the loading state. They depend
on the business, the theme and the packages alone.
-/

namespace Sitewright.Skeleton

/-- Lines of text, each ended by a line feed. -/
def lines (texts : List String) : String := String.join (texts.map fun s => s ++ "\n")

/-! ### Build tools -/

/-- Versions of packages as an object. -/
def versions (entries : List (String × String)) : Json :=
  Json.ofEntries (entries.map fun entry => (entry.1, .str entry.2))

/-- The package manifest. -/
def manifest (business : Business) (packages : Packages) : Json :=
  .obj [
    ("dependencies", versions packages.dependencies),
    ("devDependencies", versions packages.devDependencies),
    ("name", .str (Naming.packageName business.name)),
    ("private", .bool true),
    ("scripts", .obj [("build", .str "next build"), ("dev", .str "next dev"),
      ("lint", .str "next lint"), ("start", .str "next start")]),
    ("version", .str "0.1.0")]

/-- The settings of the framework. -/
def frameworkSettings : String := lines [
  "/** @type \x7bimport('next').NextConfig\x7d */",
  "const nextConfig = \x7b",
  "  images: \x7b",
  "    unoptimized: true,",
  "  \x7d,",
  "\x7d;",
  "",
  "module.exports = nextConfig;"]

/-- The settings of the type checker. -/
def checkerSettings : String := lines [
  "\x7b",
  "  \"compilerOptions\": \x7b",
  "    \"target\": \"ES2017\",",
  "    \"lib\": [\"dom\", \"dom.iterable\", \"esnext\"],",
  "    \"allowJs\": true,",
  "    \"skipLibCheck\": true,",
  "    \"strict\": true,",
  "    \"noEmit\": true,",
  "    \"esModuleInterop\": true,",
  "    \"module\": \"esnext\",",
  "    \"moduleResolution\": \"bundler\",",
  "    \"resolveJsonModule\": true,",
  "    \"isolatedModules\": true,",
  "    \"jsx\": \"preserve\",",
  "    \"incremental\": true,",
  "    \"plugins\": [\x7b \"name\": \"next\" \x7d],",
  "    \"paths\": \x7b \"@/*\": [\"./*\"] \x7d",
  "  \x7d,",
  "  \"include\": [\"next-env.d.ts\", \"**/*.ts\", \"**/*.tsx\", \".next/types/**/*.ts\"],",
  "  \"exclude\": [\"node_modules\"]",
  "\x7d"]

/-- The settings of the style sheet pipeline. -/
def pipelineSettings : String := lines [
  "module.exports = \x7b",
  "  plugins: \x7b",
  "    tailwindcss: \x7b\x7d,",
  "    autoprefixer: \x7b\x7d,",
  "  \x7d,",
  "\x7d;"]

/-- The settings of the style classes. -/
def classSettings : String := lines [
  "import type \x7b Config \x7d from \"tailwindcss\";",
  "",
  "const config: Config = \x7b",
  "  content: [\"./app/**/*.\x7bts,tsx\x7d\", \"./components/**/*.\x7bts,tsx\x7d\"],",
  "  theme: \x7b",
  "    extend: \x7b",
  "      fontFamily: \x7b",
  "        heading: [\"var(--font-heading)\", \"serif\"],",
  "        body: [\"var(--font-body)\", \"sans-serif\"],",
  "      \x7d,",
  "      keyframes: \x7b",
  "        marquee: \x7b",
  "          \"0%\": \x7b transform: \"translateX(0)\" \x7d,",
  "          \"100%\": \x7b transform: \"translateX(-50%)\" \x7d,",
  "        \x7d,",
  "      \x7d,",
  "    \x7d,",
  "  \x7d,",
  "  plugins: [],",
  "\x7d;",
  "",
  "export default config;"]

/-! ### Pages -/

/-- The global styles. -/
def globalStyles (theme : Theme) : String := lines [
  "@tailwind base;",
  "@tailwind components;",
  "@tailwind utilities;",
  "",
  ":root \x7b",
  "  color-scheme: " ++ (if theme.isDark then "dark" else "light") ++ ";",
  "\x7d",
  "",
  "html \x7b",
  "  scroll-behavior: smooth;",
  "\x7d",
  "",
  "section[id] \x7b",
  "  scroll-margin-top: 5rem;",
  "\x7d"]

/-- The definition of a font. -/
def font (name family property : String) : String :=
  "const " ++ name ++ " = " ++ family ++ "(\x7b subsets: [\"latin\"], variable: \"" ++ property ++
    "\", display: \"swap\" \x7d);"

/-- The layout around all pages. -/
def layout (business : Business) (styles : Styles) : String :=
  let (heading, body) := styles.theme.fontStyle.families
  let families := if heading == body then heading else heading ++ ", " ++ body
  let description :=
    if Text.isBlank business.description then business.tagline else business.description
  lines [
    "import type \x7b Metadata \x7d from \"next\";",
    "import \x7b " ++ families ++ " \x7d from \"next/font/google\";",
    "import \"./globals.css\";",
    "import Navbar from \"@/components/Navbar\";",
    "import Footer from \"@/components/Footer\";",
    "",
    font "headingFont" heading "--font-heading",
    font "bodyFont" body "--font-body",
    "",
    "export const metadata: Metadata = \x7b",
    "  title: " ++ Markup.stringLiteral business.name ++ ",",
    "  description: " ++ Markup.stringLiteral description ++ ",",
    "\x7d;",
    "",
    "export default function RootLayout(" ++
      "\x7b children \x7d: \x7b children: React.ReactNode \x7d) \x7b",
    "  return (",
    "    <html lang=\"en\" className=" ++
      "\x7b`$\x7bheadingFont.variable\x7d $\x7bbodyFont.variable\x7d`\x7d>",
    "      <body className=\"" ++ styles.bodyFont ++ " antialiased " ++ styles.page ++ "\">",
    "        <Navbar />",
    "        \x7bchildren\x7d",
    "        <Footer />",
    "      </body>",
    "    </html>",
    "  );",
    "\x7d"]

/-- The loading state. -/
def loading (styles : Styles) : String :=
  let primary := styles.theme.primary.tag
  lines [
    "export default function Loading() \x7b",
    "  return (",
    "    <div className=\"flex min-h-screen items-center justify-center " ++ styles.page ++ "\">",
    "      <div className=\"h-12 w-12 animate-spin rounded-full border-4 border-" ++ primary ++
      "-200 border-t-" ++ primary ++ "-600\" />",
    "    </div>",
    "  );",
    "\x7d"]

/-- The files of the skeleton. -/
def files (business : Business) (styles : Styles) (packages : Packages) : List SourceFile := [
  ⟨"package.json", (manifest business packages).pretty ++ "\n"⟩,
  ⟨"next.config.js", frameworkSettings⟩,
  ⟨"tsconfig.json", checkerSettings⟩,
  ⟨"postcss.config.js", pipelineSettings⟩,
  ⟨"tailwind.config.ts", classSettings⟩,
  ⟨"app/globals.css", globalStyles styles.theme⟩,
  ⟨"app/layout.tsx", layout business styles⟩,
  ⟨"app/loading.tsx", loading styles⟩]

end Sitewright.Skeleton
