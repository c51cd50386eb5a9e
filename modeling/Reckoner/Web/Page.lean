import Reckoner.Texts

/-!
# The page

* `Web.page`: the page that a browser shows; it talks to the JSON routes.
-/

namespace Reckoner.Web

/-- The lines of the page. -/
def pageLines : List String :=
  ["<!DOCTYPE html>",
   "<html lang=\"en\">",
   "<head>",
   "  <meta charset=\"UTF-8\">",
   "  <meta name=\"viewport\" content=\"width=device-width, initial-scale=1.0\">",
   "  <title>Calculator Agent</title>",
   "  <style>",
   "    * \x7b box-sizing: border-box; margin: 0; padding: 0; \x7d",
   "    body \x7b",
   "      font-family: system-ui, -apple-system, \"Segoe UI\", sans-serif;",
   "      background: #f1f3f8;",
   "      min-height: 100vh;",
   "      display: flex;",
   "      justify-content: center;",
   "      align-items: flex-start;",
   "      padding: 48px 16px;",
   "      color: #222;",
   "    \x7d",
   "    main \x7b",
   "      background: #fff;",
   "      border-radius: 12px;",
   "      box-shadow: 0 8px 30px rgba(20, 30, 60, 0.12);",
   "      padding: 32px;",
   "      width: 100%;",
   "      max-width: 560px;",
   "    \x7d",
   "    h1 \x7b font-size: 1.8em; margin-bottom: 4px; \x7d",
   "    .subtitle \x7b color: #666; margin-bottom: 24px; \x7d",
   "    form \x7b display: flex; gap: 8px; \x7d",
   "    input[type=\"text\"] \x7b",
   "      flex: 1;",
   "      padding: 12px;",
   "      border: 1px solid #ccd;",
   "      border-radius: 8px;",
   "      font-size: 16px;",
   "    \x7d",
   "    button \x7b",
   "      padding: 12px 18px;",
   "      border: none;",
   "      border-radius: 8px;",
   "      background: #3b5bdb;",
   "      color: #fff;",
   "      font-size: 16px;",
   "      cursor: pointer;",
   "    \x7d",
   "    button.secondary \x7b background: #c92a2a; padding: 6px 12px; font-size: 14px; \x7d",
   "    #answer \x7b",
   "      margin-top: 20px;",
   "      padding: 16px;",
   "      border-left: 4px solid #3b5bdb;",
   "      background: #f8f9fc;",
   "      white-space: pre-wrap;",
   "    \x7d",
   "    #answer[hidden] \x7b display: none; \x7d",
   "    .history-header \x7b",
   "      margin-top: 28px;",
   "      display: flex;",
   "      justify-content: space-between;",
   "      align-items: center;",
   "    \x7d",
   "    #history \x7b list-style: none; margin-top: 12px; max-height: 300px; overflow-y: auto; \x7d",
   "    #history li \x7b padding: 8px 12px; border-bottom: 1px solid #eee; \x7d",
   "    .examples \x7b margin-top: 28px; color: #666; font-size: 0.9em; line-height: 1.6; \x7d",
   "  </style>",
   "</head>",
   "<body>",
   "  <main>",
   "    <h1>Calculator Agent</h1>",
   "    <p class=\"subtitle\">Ask a math question in plain words.</p>",
   "",
   "    <form id=\"ask\">",
   "      <input type=\"text\" id=\"query\" placeholder=\"e.g. What's 25 + 17?\" autocomplete=\"off\" autofocus>",
   "      <button type=\"submit\">Calculate</button>",
   "    </form>",
   "",
   "    <div id=\"answer\" hidden></div>",
   "",
   "    <div class=\"history-header\">",
   "      <strong>Recent calculations</strong>",
   "      <button type=\"button\" class=\"secondary\" id=\"clear\">Clear history</button>",
   "    </div>",
   "    <ul id=\"history\"></ul>",
   "",
   "    <div class=\"examples\">",
   "      Try: \"Calculate square root of 144\", \"What's 5 squared?\", \"sin of 30 degrees\", \"5 factorial\"",
   "    </div>",
   "  </main>",
   "",
   "  <script>",
   "    const queryInput = document.getElementById(\"query\");",
   "    const answer = document.getElementById(\"answer\");",
   "    const historyList = document.getElementById(\"history\");",
   "",
   "    function showAnswer(text) \x7b",
   "      answer.textContent = text;",
   "      answer.hidden = false;",
   "    \x7d",
   "",
   "    async function loadHistory() \x7b",
   "      const response = await fetch(\"/history\");",
   "      const data = await response.json();",
   "      historyList.replaceChildren(",
   "        ...data.history.map((entry) => \x7b",
   "          const li = document.createElement(\"li\");",
   "          li.textContent = `$\x7bentry.query\x7d = $\x7bentry.result\x7d`;",
   "          return li;",
   "        \x7d),",
   "      );",
   "    \x7d",
   "",
   "    document.getElementById(\"ask\").addEventListener(\"submit\", async (event) => \x7b",
   "      event.preventDefault();",
   "      const query = queryInput.value;",
   "      if (!query.trim()) return;",
   "",
   "      try \x7b",
   "        const response = await fetch(\"/calculate\", \x7b",
   "          method: \"POST\",",
   "          headers: \x7b \"Content-Type\": \"application/json\" \x7d,",
   "          body: JSON.stringify(\x7b query \x7d),",
   "        \x7d);",
   "        const data = await response.json();",
   "        showAnswer(data.result ?? `Error: $\x7bdata.error\x7d`);",
   "        queryInput.value = \"\";",
   "        await loadHistory();",
   "      \x7d catch (error) \x7b",
   "        showAnswer(`Error: $\x7berror.message\x7d`);",
   "      \x7d",
   "    \x7d);",
   "",
   "    document.getElementById(\"clear\").addEventListener(\"click\", async () => \x7b",
   "      await fetch(\"/clear\", \x7b method: \"POST\" \x7d);",
   "      await loadHistory();",
   "    \x7d);",
   "",
   "    loadHistory().catch((error) => console.error(\"Could not load history\", error));",
   "  </script>",
   "</body>",
   "</html>"]

/-- The page that a browser shows. -/
def page : String :=
  Texts.joinLines pageLines ++ "\n"

end Reckoner.Web
